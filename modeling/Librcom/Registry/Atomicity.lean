import Mathlib.Logic.Function.Basic
import Librcom.Registry.Texts

/-! Each message is handled as a whole, on the registry seen as a map of topics. -/

namespace Rcom

open Effects
open Json (ascii Value Codec)
open RegistryServer
open RegistryProxy (registerRequest getRequest unregisterRequest)

/-- The map of topics after an effect. -/
def Effect.apply : Effect → (Bytes → Option Address) → Bytes → Option Address
  | mapped topic address, map => Function.update map topic (some address)
  | removed topic, map => Function.update map topic none
  | lookedUp _, map => map
  | failed _, map => map

/-- The list of entries changes as the map of topics does. -/
theorem Effect.Changes.get_eq {effect : Effect} {registry registry' : Registry}
    (changed : effect.Changes registry registry') : registry'.get = effect.apply registry.get := by
  funext topic
  cases effect with
  | mapped named address =>
    rw [Registry.get_set changed, Effect.apply, Function.update_apply]
  -- Of the four effects two are changes of one key, and two are none.
  | removed named =>
    rw [show registry' = registry.remove named from changed, Registry.get_remove, Effect.apply,
      Function.update_apply]
  | lookedUp named => rw [show registry' = registry from changed, Effect.apply]
  | failed what => rw [show registry' = registry from changed, Effect.apply]

/-- The effects that leave the registry as it was. -/
def Effect.isIdle : Effect → Bool
  | mapped _ _ => false
  | removed _ => false
  | lookedUp _ => true
  | failed _ => true

/--
Every message is answered once, and nothing is thrown.

The registry changes by what the message asks for, and it is the same as before where that is not a change. A
message of which nothing is made is answered by a failure.
-/
theorem onmessage_atomic {host : Host} {ip : UInt32} (hosted : host.localIp = .ok ip)
    (codec : Codec) (registry : Registry) (message : Bytes) :
    ∃ registry' reply,
      (RegistryServer.onmessage host codec message).Yields { registry := registry, sent := [] } ()
        { registry := registry', sent := [(reply, .kTextMessage)] } ∧
      registry'.get = (effect host codec message).apply registry.get ∧
      ((effect host codec message).isIdle = true → registry' = registry) ∧
      ∀ what, effect host codec message = .failed what → reply = failReply what := by
  obtain ⟨registry', reply, yields, changes, answers⟩ :=
    onmessage_serves codec hosted registry message
  refine ⟨registry', reply, yields, changes.get_eq, ?_, ?_⟩
  · intro idle
    -- A look-up and a failure are the two that touch nothing; the other two are not idle.
    cases made : effect host codec message with
    | mapped topic address => simp [made, Effect.isIdle] at idle
    | removed topic => simp [made, Effect.isIdle] at idle
    | lookedUp topic => rwa [made] at changes
    | failed what => rwa [made] at changes
  · intro what failed
    rwa [failed] at answers

/-- A library for the texts of the registry, and the address of a hub. -/
def flatCodec : Codec := .flat (fun _ => []) []
def hubAddress : Address := ⟨16777343, 80⟩

/-- A topic is registered, looked up and unregistered, and a message that is no JSON text fails. -/
theorem onmessage_atomic_alpha :
    ∃ registered unregistered reply found gone what,
      (RegistryServer.onmessage .dotted flatCodec (registerRequest (ascii "alpha") hubAddress)).Yields
        { registry := .empty, sent := [] } ()
        { registry := registered, sent := [(reply, .kTextMessage)] } ∧
      registered.get (ascii "alpha") = some hubAddress ∧
      (RegistryServer.onmessage .dotted flatCodec (getRequest (ascii "alpha"))).Yields
        { registry := registered, sent := [] } ()
        { registry := registered, sent := [(found, .kTextMessage)] } ∧
      (RegistryServer.onmessage .dotted flatCodec (unregisterRequest (ascii "alpha"))).Yields
        { registry := registered, sent := [] } ()
        { registry := unregistered, sent := [(gone, .kTextMessage)] } ∧
      unregistered.get (ascii "alpha") = none ∧
      (RegistryServer.onmessage .dotted flatCodec (ascii "hello")).Yields
        { registry := registered, sent := [] } ()
        { registry := registered, sent := [(failReply what, .kTextMessage)] } := by
  have reads : flatCodec.ReadsFlat := Json.Codec.flat_readsFlat (fun _ => []) []
  have bare : Json.isBare (ascii "alpha") = true := by decide
  -- What is made of each of the messages.
  have maps : effect .dotted flatCodec (registerRequest (ascii "alpha") hubAddress) =
      .mapped (ascii "alpha") hubAddress := effect_registerRequest reads bare (by decide)
  have looks : effect .dotted flatCodec (getRequest (ascii "alpha")) = .lookedUp (ascii "alpha") :=
    effect_getRequest reads bare
  have removes : effect .dotted flatCodec (unregisterRequest (ascii "alpha")) =
      .removed (ascii "alpha") := effect_unregisterRequest reads bare
  obtain ⟨what, fails⟩ : ∃ what, effect .dotted flatCodec (ascii "hello") = .failed what := ⟨_, rfl⟩
  have hosted : Host.dotted.localIp = .ok 16777343 := rfl
  obtain ⟨registered, reply, registers, added, -, -⟩ := onmessage_atomic hosted flatCodec
    .empty (registerRequest (ascii "alpha") hubAddress)
  obtain ⟨same, found, finds, -, idle, -⟩ := onmessage_atomic hosted flatCodec registered
    (getRequest (ascii "alpha"))
  obtain ⟨unregistered, gone, unregisters, removed, -, -⟩ := onmessage_atomic hosted
    flatCodec registered (unregisterRequest (ascii "alpha"))
  obtain ⟨same', reply', refuses, -, idle', failure⟩ := onmessage_atomic hosted flatCodec
    registered (ascii "hello")
  obtain rfl := idle (by rw [looks]; rfl)
  obtain rfl := idle' (by rw [fails]; rfl)
  rw [failure what fails] at refuses
  refine ⟨_, unregistered, reply, found, gone, what, registers, ?_, finds, unregisters, ?_, refuses⟩
  · rw [added, maps, Effect.apply, Function.update_self]
  · rw [removed, removes, Effect.apply, Function.update_self]

end Rcom
