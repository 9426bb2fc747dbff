import Librcom.Json.Value
import Librcom.Registry.Address
import Librcom.WebSocket.Constants

/-! The registry of topics, as a list of entries and as a finite map. -/

namespace Rcom

open Json (ascii)

/-- The topics and their addresses, where no topic comes twice. -/
structure Registry where
  entries : List (Bytes × Address)
  distinct : (entries.map Prod.fst).Nodup

namespace Registry

/-- A registry without entries. -/
def empty : Registry where
  entries := []
  distinct := List.nodup_nil

/-- The position of the entry for a topic. -/
def find (entries : List (Bytes × Address)) (topic : Bytes) : Option Nat :=
  entries.findIdx? fun entry => entry.1 == topic

/-- The entries without the one for a topic. -/
def erase (entries : List (Bytes × Address)) (topic : Bytes) : List (Bytes × Address) :=
  match find entries topic with
  | some index => entries.eraseIdx index
  | none => entries

/-- The entries with one more at the end. -/
def insert (entries : List (Bytes × Address)) (topic : Bytes) (address : Address) :
    List (Bytes × Address) :=
  entries ++ [(topic, address)]

/-- The first entry of the topic is erased. -/
theorem erase_eq (entries : List (Bytes × Address)) (topic : Bytes) :
    erase entries topic = entries.eraseP fun entry => entry.1 == topic := by
  rw [List.eraseP_eq_eraseIdx]
  unfold erase find
  cases entries.findIdx? fun entry => entry.1 == topic <;> rfl

/-- Erasing keeps the topics distinct. -/
theorem erase_distinct {entries : List (Bytes × Address)}
    (distinct : (entries.map Prod.fst).Nodup) (topic : Bytes) :
    ((erase entries topic).map Prod.fst).Nodup := by
  rw [erase_eq]
  exact distinct.sublist (List.eraseP_sublist.map Prod.fst)

/-- Where topics are distinct, erasing leaves the entries for the others. -/
theorem erase_eq_filter {entries : List (Bytes × Address)}
    (distinct : (entries.map Prod.fst).Nodup) (topic : Bytes) :
    erase entries topic = entries.filter fun entry => entry.1 != topic := by
  -- The first entry for the topic is the only one, so that none is left behind it.
  rw [erase_eq]
  induction entries with
  | nil => rfl
  | cons entry rest ih =>
    simp only [List.map_cons, List.nodup_cons] at distinct
    by_cases same : entry.1 = topic
    · -- Another entry for the topic would be a second one.
      have others : ∀ other ∈ rest, (other.1 != topic) = true := by
        intro other member
        rw [bne_iff_ne]
        intro again
        exact distinct.1 (List.mem_map.mpr ⟨other, member, again.trans same.symm⟩)
      rw [List.eraseP_cons_of_pos (by simpa using same), List.filter_cons_of_neg (by simpa using same),
        List.filter_eq_self.mpr others]
    · rw [List.eraseP_cons_of_neg (by simpa using same), List.filter_cons_of_pos (by simpa using same),
        ih distinct.2]

/-- A topic that is erased and inserted has one entry. -/
theorem insert_distinct {entries : List (Bytes × Address)}
    (distinct : (entries.map Prod.fst).Nodup) (topic : Bytes) (address : Address) :
    ((insert (erase entries topic) topic address).map Prod.fst).Nodup := by
  have erased := erase_distinct distinct topic
  rw [insert, List.map_append, List.nodup_append]
  refine ⟨erased, by simp, ?_⟩
  -- An entry that was kept is for another topic than the new one.
  intro topic' member topic'' last
  rw [erase_eq_filter distinct, List.mem_map] at member
  obtain ⟨entry, kept, rfl⟩ := member
  simp only [List.map_cons, List.map_nil, List.mem_singleton] at last
  simpa [last] using (List.mem_filter.mp kept).2

variable (registry : Registry) (topic : Bytes)

/-- Map a topic to an address, which has to be set. -/
def set (address : Address) : Except Bytes Registry :=
  if address.isSet then
    .ok {
      entries := insert (erase registry.entries topic) topic address
      distinct := insert_distinct registry.distinct topic address
    }
  else .error (ascii "Registry::add: address not set")

/-- The address of a topic, when there is one. -/
def get : Option Address :=
  match find registry.entries topic with
  | some index => (registry.entries[index]?).map Prod.snd
  | none => none

def remove : Registry where
  entries := erase registry.entries topic
  distinct := erase_distinct registry.distinct topic

/-- The entry at the position of a topic is the first one for it. -/
theorem find_eq (entries : List (Bytes × Address)) (topic : Bytes) :
    ((find entries topic).bind fun index => entries[index]?) =
      entries.find? fun entry => entry.1 == topic := by
  induction entries with
  | nil => rfl
  | cons entry rest ih =>
    unfold find at ih ⊢
    rw [List.findIdx?_cons, List.find?_cons]
    -- The first entry is the one that is found, or it is passed over by both.
    by_cases same : (entry.1 == topic) = true
    · simp [same]
    · simp only [same, if_false, Bool.false_eq_true, ← ih]
      cases rest.findIdx? fun entry => entry.1 == topic <;> simp

/-- The address of a topic is that of the first entry with its name. -/
theorem get_eq : registry.get topic =
    (registry.entries.find? fun entry => entry.1 == topic).map Prod.snd := by
  rw [← find_eq, get]
  cases find registry.entries topic <;> rfl

/-- After erasing, there is no entry for the topic, and those for the others are found as before. -/
theorem find?_erase {entries : List (Bytes × Address)} (distinct : (entries.map Prod.fst).Nodup)
    (topic topic' : Bytes) :
    (erase entries topic).find? (fun entry => entry.1 == topic') =
      if topic' = topic then none else entries.find? fun entry => entry.1 == topic' := by
  rw [erase_eq_filter distinct, List.find?_filter]
  by_cases same : topic' = topic
  · rw [if_pos same, List.find?_eq_none]
    -- Every entry that was kept is for another topic.
    intro entry _
    simp [same]
  · rw [if_neg same]
    -- The entry of another topic passes the filter.
    congr 1
    funext entry
    by_cases found : entry.1 = topic'
    · simp [found, same]
    · simp [found]

/-- After a topic was mapped, it has its address, and the others have theirs. -/
theorem get_set {registry registry' : Registry} {topic : Bytes} {address : Address}
    (mapped : registry.set topic address = .ok registry') (topic' : Bytes) :
    registry'.get topic' = if topic' = topic then some address else registry.get topic' := by
  unfold set at mapped
  split at mapped
  · cases mapped
    -- The old entry of the topic is erased, so that the new one is the only one.
    simp only [get_eq, insert, List.find?_append, find?_erase registry.distinct]
    by_cases same : topic' = topic
    · simp [same]
    · have other : ¬ topic = topic' := fun again => same again.symm
      simp [same, other]
  · cases mapped

/-- After a topic was removed, it has no address, and the others have theirs. -/
theorem get_remove (topic' : Bytes) : (registry.remove topic).get topic' =
    if topic' = topic then none else registry.get topic' := by
  simp only [get_eq, remove, find?_erase registry.distinct]
  by_cases same : topic' = topic <;> simp [same]

/-- An address is taken if and only if it is set. -/
theorem set_ok (address : Address) :
    (∃ registry', registry.set topic address = .ok registry') ↔ address.isSet = true := by
  unfold set
  by_cases given : address.isSet = true <;> simp [given]

end Registry

end Rcom
