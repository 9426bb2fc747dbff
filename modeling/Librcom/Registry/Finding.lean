import Librcom.Registry.DiscoveryLaws

/-! A process finds a registry, whatever becomes of the datagrams between them. -/

namespace Rcom

open Effects

variable {host : Host} {location : RegistryLocation} {registries : Address → Prop} {before : Datagrams}
  {rest : Multiset Int} {registry : Address}

/-- The text of an address fits in the buffer of a lookup. -/
theorem length_tostring_le (address : Address) : address.tostring.length ≤ 21 := by
  -- The parts of the text are four octets and a port.
  have octet : ∀ n, n < 10 ^ 3 → (Decimal.decimal n).length ≤ 3 := fun n small =>
    Decimal.length_decimal_le small
  have first := octet (address.ip.toNat % 256) (by omega)
  have second := octet (address.ip.toNat / 256 % 256) (by omega)
  have third := octet (address.ip.toNat / 65536 % 256) (by omega)
  have small := address.ip.toNat_lt
  have fourth := octet (address.ip.toNat / 16777216) (by omega)
  have port : (Decimal.decimal address.port.toNat).length ≤ 5 :=
    Decimal.length_decimal_le (Nat.lt_of_lt_of_le address.port.toNat_lt (by decide))
  simp only [Address.tostring, inetNtoa, List.length_append, List.length_cons]
  omega

/-- The text of an address comes through the buffer of a lookup as it is. -/
theorem received_tostring (address : Bytes) (registry sender : Address) :
    RegistryLookup.received address (Datagrams.cut (kDatagramBufferLength - 1)
      (some (registry.tostring, sender))) = registry.tostring := by
  have short := length_tostring_le registry
  -- An address has far fewer bytes than the buffer, and no null character among them.
  have whole : registry.tostring.take (kDatagramBufferLength - 1) = registry.tostring :=
    List.take_of_length_le (by unfold kDatagramBufferLength; omega)
  have long : registry.tostring.length > 0 := by simp [Address.tostring]
  have null : (0 : UInt8) ∉ registry.tostring := fun member => by
    have plain := isAddressByte_tostring registry 0 member
    cases plain
  simp only [Datagrams.cut, Option.map_some, whole, RegistryLookup.received, if_pos long, cString_eq null]

variable (registries before) in
/-- Every datagram that reaches the process was sent by the lookup server of one of the registries. -/
def OnlyRegistries : Prop :=
  ∀ n datagram sender, before.receptions.get n = some (datagram, sender) →
    ∃ registry, registries registry ∧ RegistryLookupServer.Sends registry.tostring datagram

/-- A reception is none, or the text of a registry. -/
theorem OnlyRegistries.cases (only : OnlyRegistries registries before) (n : Nat) :
    before.receptions.get n = none ∨ ∃ registry sender, registries registry ∧
      before.receptions.get n = some (registry.tostring, sender) := by
  cases received : before.receptions.get n with
  | none => exact .inl rfl
  | some request =>
    obtain ⟨datagram, sender⟩ := request
    obtain ⟨registry, known, sends⟩ := only n datagram sender received
    rw [sends.eq]
    exact .inr ⟨registry, sender, known, rfl⟩

/-- Where there is no answer yet, nothing was received. -/
theorem OnlyRegistries.silent (only : OnlyRegistries registries before) {asked : Nat}
    (unanswered : RegistryLookup.Unanswered (.create kLookupPort) before asked) {n : Nat}
    (less : n + 1 < asked) : before.receptions.get n = none := by
  rcases only.cases n with silent | ⟨registry, sender, -, received⟩
  · exact silent
  · -- What was received would be an answer.
    have empty := unanswered (n + 1) (by omega) less
    rw [RegistryLookup.heardAfter, received, received_tostring] at empty
    simp [Address.tostring] at empty

/-- The text is that of a lookup of the process, whose failures are those of the caller. -/
theorem addressString_achieves {location : RegistryLocation} (unset : location.useRegistryAddress = false)
    (held : before.held = some rest) :
    (RegistryServer.addressString location).Achieves before
      (fun text after => ∃ asked, RegistryLookup.Found (.create kLookupPort) before rest asked text after)
      (fun e after => e.IsRuntimeError ∧ RegistryLookup.Missed (.create kLookupPort) before rest after) := by
  unfold RegistryServer.addressString
  rw [unset, if_neg (by decide)]
  have looks : RegistryLookup.lookup.Achieves (RegistryLookup.create kLookupPort, before)
      (fun text s => ∃ asked, RegistryLookup.Found (.create kLookupPort) before rest asked text s.2)
      (fun e s => e.IsRuntimeError ∧ RegistryLookup.Missed (.create kLookupPort) before rest s.2) :=
    RegistryLookup.lookup_achieves held
  -- The lookup is an object of its own, of which only the text is left.
  refine Program.Achieves.bind ⟨looks.toEnsures.owning.mono (fun _ _ found => found) ?_,
    looks.halts.owning⟩ fun result after found => ?_
  · rintro e after ⟨_, failed⟩
    exact failed
  · exact (Program.yields_pure _ _).achieves found

/--
A process finds a registry, if one answer of a lookup server reaches it in time.

Any number of registries may answer, and datagrams may be lost, doubled, and out of order. The process asks at most
eight times, until the first answer, and gets the address of the registry whose server has sent that. It fails
only if there was no answer to eight questions, or if a system call did, and its descriptor is closed either way.
-/
theorem getAddress_discovers (host : Host) {location : RegistryLocation}
    (unset : location.useRegistryAddress = false) (held : before.held = some rest)
    (only : OnlyRegistries registries before) :
    (RegistryServer.getAddress host location).Achieves before
      (fun registry after => registries registry ∧ after.held = some rest ∧
        ∃ n < 8, (∀ m < n, before.receptions.get m = none) ∧
          (∃ sender, before.receptions.get n = some (registry.tostring, sender)) ∧
          after.sent = before.sent ++ List.replicate (n + 1) (RegistryLookup.question kLookupPort))
      (fun e after => e.IsRuntimeError ∧ after.held = some rest ∧
        (∃ asked ≤ 8,
          after.sent = before.sent ++ List.replicate asked (RegistryLookup.question kLookupPort)) ∧
        ((∃ n < 11, before.results.get n < 0) ∨ ∀ n < 8, before.receptions.get n = none)) := by
  refine (addressString_achieves unset held).seq ?_ ?_
  · -- A reception without an answer is one without a datagram, as only registries send.
    rintro e after ⟨thrown, missed⟩
    refine ⟨thrown, missed.closed, missed.sent, missed.why.imp id fun unanswered n less => ?_⟩
    exact only.silent unanswered (by omega)
  · -- The reception that ended the lookup is the one after its last question.
    rintro text after ⟨asked, found⟩
    obtain ⟨n, rfl⟩ := Nat.exists_eq_succ_of_ne_zero (Nat.pos_iff_ne_zero.mp found.asks.1)
    have answer := found.answer
    rw [RegistryLookup.heardAfter] at answer
    rcases only.cases n with silent | ⟨registry, sender, known, received⟩
    · -- Without a datagram there would be no more than what there was before.
      have before_empty : RegistryLookup.heardAfter [] before.receptions n = [] := by
        cases n with
        | zero => rfl
        | succ n => exact found.unanswered (n + 1) (by omega) (by omega)
      rw [silent] at answer
      exact absurd (answer.trans before_empty) found.some_text
    · rw [received, received_tostring] at answer
      -- The text of an address is read back as the address.
      have parsed := Address.parse_tostring host registry
      rw [answer]
      refine (Program.yields_ofExcept (by rw [parsed]; rfl) after).achieves
        ⟨known, found.closed, n, by have := found.asks.2; omega, ?_, ⟨sender, received⟩, found.sent⟩
      intro m less
      exact only.silent found.unanswered (by omega)

/-- The registry of the host itself. -/
def ownRegistry : Address := ⟨16777343, 10101⟩

/-- The system of a lookup server that receives one question. -/
def answeringHost : Datagrams where
  calls := []
  results := Stream'.const 3
  receptions := fun n =>
    if n = 0 then some (RegistryLookup.broadcastMessage, ⟨16777343, 40000⟩) else none

/-- The system of a process, where the answer to the first question was lost. -/
def askingHost : Datagrams where
  calls := []
  results := Stream'.const 3
  receptions := fun n => if n = 1 then some (ownRegistry.tostring, ⟨16777343, 10101⟩) else none

/-- The server answers the question. -/
theorem sends_ownRegistry : RegistryLookupServer.Sends ownRegistry.tostring ownRegistry.tostring := by
  have served := Program.yields_after (show ((RegistryLookupServer.serve kLookupPort).run 4
    (.create ownRegistry.tostring fun n => n == 2, answeringHost)).value? = some () by decide +kernel)
  exact ⟨kLookupPort, fun n => n == 2, answeringHost, _, ⟨16777343, 40000⟩, rfl, served,
    by decide +kernel⟩

/-- The process finds the registry with its second question. -/
theorem getAddress_discovers_second :
    (RegistryServer.getAddress .dotted ⟨false, ownRegistry⟩).Achieves askingHost
      (fun registry after => registry = ownRegistry ∧ after.held = some 0 ∧
        ∃ n < 8, (∀ m < n, askingHost.receptions.get m = none) ∧
          (∃ sender, askingHost.receptions.get n = some (registry.tostring, sender)) ∧
          after.sent = [] ++ List.replicate (n + 1) (RegistryLookup.question kLookupPort))
      (fun e after => e.IsRuntimeError ∧ after.held = some 0 ∧
        (∃ asked ≤ 8, after.sent = [] ++ List.replicate asked (RegistryLookup.question kLookupPort)) ∧
        ((∃ n < 11, askingHost.results.get n < 0) ∨ ∀ n < 8, askingHost.receptions.get n = none)) := by
  suffices only : OnlyRegistries (fun registry => registry = ownRegistry) askingHost from
    getAddress_discovers .dotted rfl rfl only
  intro n datagram sender received
  -- The only datagram is the answer of the server.
  by_cases second : n = 1
  · subst second
    obtain ⟨rfl, -⟩ := Prod.mk.inj (Option.some.inj received)
    exact ⟨ownRegistry, rfl, sends_ownRegistry⟩
  · have silent : askingHost.receptions.get n = none := if_neg second
    rw [silent] at received
    cases received

end Rcom
