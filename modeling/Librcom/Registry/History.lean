import Librcom.Effects.History
import Librcom.Effects.Rules
import Librcom.Registry.Store

/-! The registry over any sequence of calls, as a map that is changed one topic at a time. -/

namespace Rcom

open Effects
open History (Change Latest contents)

/-- The entries of a registry. -/
abbrev Entries := List (Bytes × Address)

/-- A method of a registry, which works on its entries. -/
abbrev RegistryM := Program Entries Fault

namespace RegistryM

def set (topic : Bytes) (address : Address) : RegistryM Unit := do
  if address.isSet then
    Program.update fun entries => Registry.erase entries topic
    Program.update fun entries => Registry.insert entries topic address
  else Program.raise (.runtimeError "Registry::add: address not set")

/-- Look up a topic, and change the given address if it is found. -/
def get (topic : Bytes) (address : Address) : RegistryM (Bool × Address) := do
  let entries ← Program.get
  match (Registry.find entries topic).bind fun index => entries[index]? with
  | some entry => return (true, entry.2)
  | none => return (false, address)

def remove (topic : Bytes) : RegistryM Unit :=
  Program.update fun entries => Registry.erase entries topic

end RegistryM

/-- A call on a registry. -/
inductive RegistryCall where
  | set (topic : Bytes) (address : Address)
  | get (topic : Bytes) (address : Address)
  | remove (topic : Bytes)

/-- What the caller sees of a call. -/
inductive RegistryAnswer where
  | returned
  | threw (e : Fault)
  /-- Whether the topic was found, and the caller's address afterwards. -/
  | looked (found : Bool) (address : Address)

namespace RegistryCall

/-- Make a call, whose exception does not end the run. -/
def perform : RegistryCall → RegistryM RegistryAnswer
  | .set topic address =>
    (do
      RegistryM.set topic address
      return .returned : RegistryM RegistryAnswer).attempt fun e => return .threw e
  | .get topic address => do
    let (found, address) ← RegistryM.get topic address
    return .looked found address
  | .remove topic => do
    RegistryM.remove topic
    return .returned

/-- What a successful call changes. -/
def change : RegistryCall → Option (Change Bytes Address)
  | .set topic address => if address.isSet then some (.put topic address) else none
  | .get _ _ => none
  | .remove topic => some (.drop topic)

/-- The answer that a map gives to a call. -/
def answer (map : Bytes → Option Address) : RegistryCall → RegistryAnswer
  | .set _ address =>
    if address.isSet then .returned else .threw (.runtimeError "Registry::add: address not set")
  | .get topic address =>
    match map topic with
    | some found => .looked true found
    | none => .looked false address
  | .remove _ => .returned

end RegistryCall

/-- Make calls, one after the other. -/
def performCalls : List RegistryCall → RegistryM (List RegistryAnswer)
  | [] => return []
  | call :: rest => do
    let answer ← call.perform
    let answers ← performCalls rest
    return answer :: answers

/-- The answers of a map to calls, which it is changed by. -/
def answers (map : Bytes → Option Address) : List RegistryCall → List RegistryAnswer
  | [] => []
  | call :: rest => call.answer map :: answers (call.change.elim map (History.change map)) rest

/-- Each topic has one entry at most, and it is the one of the map. -/
structure Refines (entries : Entries) (map : Bytes → Option Address) : Prop where
  distinct : (entries.map Prod.fst).Nodup
  holds : ∀ topic, (entries.find? fun entry => entry.1 == topic).map Prod.snd = map topic

section Steps

variable {entries : Entries} {map : Bytes → Option Address}

/-- A lookup finds what the map has, and leaves the entries. -/
theorem get_refines (refines : Refines entries map) (topic : Bytes) (address : Address) :
    (RegistryM.get topic address).Yields entries
      (match map topic with | some found => (true, found) | none => (false, address)) entries := by
  refine (Program.yields_get entries).bind ?_
  -- The index that is found is the one of the first entry for the topic.
  rw [Registry.find_eq, ← refines.holds topic]
  cases entries.find? fun entry => entry.1 == topic with
  | none => exact Program.yields_pure _ _
  | some entry => exact Program.yields_pure _ _

/-- To erase an entry drops its topic from the map. -/
theorem erase_refines (refines : Refines entries map) (topic : Bytes) :
    Refines (Registry.erase entries topic) (History.change map (.drop topic)) where
  distinct := Registry.erase_distinct refines.distinct topic
  holds topic' := by
    rw [Registry.find?_erase refines.distinct, History.change, Function.update_apply]
    split
    · rfl
    · exact refines.holds topic'

/-- To insert an entry behind the erasing of its topic puts the topic into the map. -/
theorem insert_refines (refines : Refines entries map) (topic : Bytes) (address : Address) :
    Refines (Registry.insert (Registry.erase entries topic) topic address)
      (History.change map (.put topic address)) where
  distinct := Registry.insert_distinct refines.distinct topic address
  holds topic' := by
    have erased := (erase_refines refines topic).holds topic'
    rw [Registry.insert, List.find?_append, History.change, Function.update_apply]
    rw [History.change, Function.update_apply] at erased
    -- The old entry is gone, so that the new one is found behind the others.
    by_cases same : topic' = topic
    · subst same
      rw [if_pos rfl, Option.map_eq_none_iff] at erased
      simp [erased]
    · have other : ¬ topic = topic' := fun again => same again.symm
      rw [if_neg same] at erased ⊢
      simp [other, erased]

/-- Removing a topic that the map does not have changes nothing. -/
theorem remove_absent (refines : Refines entries map) {topic : Bytes} (absent : map topic = none) :
    (RegistryM.remove topic).Yields entries () entries := by
  -- A topic that the map does not have has no entry, and filtering it out leaves the rest.
  have missing : entries.find? (fun entry => entry.1 == topic) = none := by
    have looked := refines.holds topic
    rwa [absent, Option.map_eq_none_iff] at looked
  have same : Registry.erase entries topic = entries := by
    rw [Registry.erase_eq_filter refines.distinct, List.filter_eq_self]
    intro entry member
    simpa using List.find?_eq_none.mp missing entry member
  have removed := Program.yields_update (ε := Fault) (fun entries => Registry.erase entries topic) entries
  rwa [same] at removed

/-- Mapping a topic to an address that is not set throws, and leaves the entries. -/
theorem set_throws {address : Address} (unset : address.isSet = false) (topic : Bytes) :
    (RegistryM.set topic address).Throws entries (.runtimeError "Registry::add: address not set")
      entries := by
  unfold RegistryM.set
  rw [if_neg (by simp [unset])]
  exact Program.throws_raise _ _

/-- An address that is set takes the place of the one before it. -/
theorem set_yields {address : Address} (given : address.isSet = true) (topic : Bytes) :
    (RegistryM.set topic address).Yields entries ()
      (Registry.insert (Registry.erase entries topic) topic address) := by
  unfold RegistryM.set
  rw [if_pos given]
  exact (Program.yields_update _ _).bind (Program.yields_update _ _)

/-- A registry that carries its invariant is changed as its entries are. -/
theorem set_registry {registry registry' : Registry} {topic : Bytes} {address : Address}
    (mapped : registry.set topic address = .ok registry') :
    (RegistryM.set topic address).Yields registry.entries () registry'.entries := by
  -- The registry was changed, so that its check of the address has passed.
  have given : address.isSet = true := (registry.set_ok topic address).mp ⟨registry', mapped⟩
  unfold Registry.set at mapped
  rw [if_pos given] at mapped
  cases mapped
  exact set_yields given topic

/-- Each call gives the answer of the map, and changes the entries as it changes the map. -/
theorem perform_refines (refines : Refines entries map) (call : RegistryCall) :
    ∃ entries', call.perform.Yields entries (call.answer map) entries' ∧
      Refines entries' (call.change.elim map (History.change map)) := by
  cases call with
  | set topic address =>
    cases given : address.isSet with
    | true =>
      refine ⟨Registry.insert (Registry.erase entries topic) topic address, Program.Yields.attempt _ ?_, ?_⟩
      · simp only [RegistryCall.answer, given, if_true]
        exact (set_yields given topic).bind (Program.yields_pure _ _)
      · simp only [RegistryCall.change, given, if_true]
        exact insert_refines refines topic address
    | false =>
      -- The exception is the answer of the call, and the run goes on.
      refine ⟨entries, ((set_throws given topic).bind _).attempt ?_, ?_⟩
      · simp only [RegistryCall.answer, given, Bool.false_eq_true, if_false]
        exact Program.yields_pure _ _
      · simpa [RegistryCall.change, given] using refines
  | get topic address =>
    have looked := get_refines refines topic address
    -- The look-up gives what the map has.
    cases held : map topic with
    | none =>
      rw [held] at looked
      simp only [RegistryCall.answer, held]
      exact ⟨entries, looked.bind (Program.yields_pure _ _), refines⟩
    | some found =>
      rw [held] at looked
      simp only [RegistryCall.answer, held]
      exact ⟨entries, looked.bind (Program.yields_pure _ _), refines⟩
  | remove topic =>
    exact ⟨_, (Program.yields_update _ _).bind (Program.yields_pure _ _), erase_refines refines topic⟩

end Steps

/-- Calls give the answers of a map that they change. -/
theorem performCalls_refines {entries : Entries} {map : Bytes → Option Address}
    (refines : Refines entries map) (calls : List RegistryCall) :
    ∃ entries', (performCalls calls).Yields entries (answers map calls) entries' ∧
      Refines entries' ((calls.filterMap RegistryCall.change).foldl History.change map) := by
  -- The step of one call, and by induction the rest from where it leads.
  induction calls generalizing entries map with
  | nil => exact ⟨entries, Program.yields_pure _ _, refines⟩
  | cons call rest ih =>
    obtain ⟨mid, first, between⟩ := perform_refines refines call
    obtain ⟨entries', others, refined⟩ := ih between
    refine ⟨entries', first.bind (others.bind (Program.yields_pure _ _)), ?_⟩
    cases changed : call.change with
    | none => simpa [changed] using refined
    | some change => simpa [changed] using refined

/--
After any calls, a topic has the address that it was last mapped to, unless it was removed since.

The topics are distinct, the caller's address is left when nothing is found,
and removing an absent topic or mapping one to an address that is not set changes nothing.
-/
theorem registry_refines_map (calls : List RegistryCall) :
    ∃ entries, (performCalls calls).Yields [] (answers (fun _ => none) calls) entries ∧
      (entries.map Prod.fst).Nodup ∧
      ∀ topic address,
        (∀ found, Latest (calls.filterMap RegistryCall.change) topic found →
          (RegistryM.get topic address).Yields entries (true, found) entries) ∧
        ((∀ found, ¬ Latest (calls.filterMap RegistryCall.change) topic found) →
          (RegistryM.get topic address).Yields entries (false, address) entries ∧
          (RegistryM.remove topic).Yields entries () entries) ∧
        (address.isSet = false → (RegistryM.set topic address).Throws entries
          (.runtimeError "Registry::add: address not set") entries) ∧
        (address.isSet = true → ∃ entries', (RegistryM.set topic address).Yields entries () entries') := by
  have start : Refines [] fun _ => none := ⟨List.nodup_nil, fun _ => rfl⟩
  obtain ⟨entries, ran, refines⟩ := performCalls_refines start calls
  -- What the calls changed, one after the other, are the contents of their history.
  have map : Refines entries (contents (calls.filterMap RegistryCall.change)) := refines
  refine ⟨entries, ran, map.distinct, fun topic address => ⟨fun found latest => ?_, fun never => ?_,
    fun unset => set_throws unset topic, fun given => ⟨_, set_yields given topic⟩⟩⟩
  · have looked := get_refines map topic address
    rwa [History.contents_eq_some.mpr latest] at looked
  · have absent : contents (calls.filterMap RegistryCall.change) topic = none := by
      -- A topic with an address in the map would have been mapped to it last.
      rw [Option.eq_none_iff_forall_ne_some]
      intro found holds
      exact never found (History.contents_eq_some.mp holds)
    have looked := get_refines map topic address
    rw [absent] at looked
    exact ⟨looked, remove_absent map absent⟩

end Rcom
