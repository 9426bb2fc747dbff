import Librcom.Rpc.Server
import Mathlib.Logic.Function.Basic

/-! Remote objects: the adaptor that finds them by their ids, and the server that keeps their state. -/

namespace Rcom

open Effects
open Json (ascii Value Codec)

/-- What a call leaves in its result and in its error, and the exception that it ended with, if any. -/
structure ObjectOutcome (ρ : Type) where
  result : ρ
  error : RPCError
  threw : Option Bytes

/--
An object that executes calls on a state of the application.

The error that is passed to a call is for its outcome, and the state after the call does not depend on it.
-/
structure RemoteObject (σ : Type) where
  executeJson : σ → Bytes → Bytes → Value → RPCError → ObjectOutcome Value
  executeBinary : σ → Bytes → Bytes → Value → RPCError → ObjectOutcome Bytes
  next : σ → Execution → σ

/-- The objects of a server by their ids. -/
structure RemoteObjectsAdaptor (σ : Type) where
  map : Bytes → Option (RemoteObject σ)

namespace RemoteObjectsAdaptor

variable {σ : Type}

def create : RemoteObjectsAdaptor σ := ⟨fun _ => none⟩

/-- An id that has an object already keeps it, as the map does not replace what it has. -/
def add (adaptor : RemoteObjectsAdaptor σ) (id : Bytes) (ptr : RemoteObject σ) :
    RemoteObjectsAdaptor σ :=
  if (adaptor.map id).isSome then adaptor else ⟨Function.update adaptor.map id (some ptr)⟩

/-- The adaptor with the given objects, which are added in their order. -/
def withObjects (objects : List (Bytes × RemoteObject σ)) : RemoteObjectsAdaptor σ :=
  objects.foldl (fun adaptor object => adaptor.add object.1 object.2) create

variable (adaptor : RemoteObjectsAdaptor σ)

def getAdaptor (id : Bytes) : Except Bytes (RemoteObject σ) :=
  match adaptor.map id with
  | some object => .ok object
  | none =>
    let message := ascii "Can't find object with given id: " ++ id
    -- The text of the exception is made from a C string.
    .error (cString message)

/-- Execute a call of an object that was looked for. Exceptions are turned into errors. -/
def caught {ρ : Type} (found : Except Bytes (RemoteObject σ)) (untouched : ρ × RPCError)
    (execute : RemoteObject σ → ObjectOutcome ρ) : ρ × RPCError :=
  match found with
  | .error what => (untouched.1, { code := 2, message := cString what })
  | .ok object =>
    let outcome := execute object
    match outcome.threw with
    -- What the object wrote to the result before it threw stays there.
    | some what => (outcome.result, { code := 2, message := cString what })
    | none => (outcome.result, outcome.error)

def executeJson (state : σ) (id method : Bytes) (params : Value) (error : RPCError) :
    Value × RPCError :=
  caught (adaptor.getAdaptor id) (.null, error) fun object =>
    object.executeJson state id method params error

def executeBinary (state : σ) (id method : Bytes) (params : Value) (error : RPCError) :
    Bytes × RPCError :=
  caught (adaptor.getAdaptor id) ([], error) fun object =>
    object.executeBinary state id method params error

/-- The state after a call, which reaches no object when there is none of its id. -/
def next (state : σ) (execution : Execution) : σ :=
  match adaptor.map execution.id with
  | some object => object.next state execution
  | none => state

end RemoteObjectsAdaptor

/-- A handler of calls that keeps a state from one call to the next. -/
structure Service (σ : Type) where
  handler : σ → IRPCHandler
  next : σ → Execution → σ

/-- The adaptor as the handler of a server. No exception leaves it. -/
def RemoteObjectsAdaptor.service {σ : Type} (adaptor : RemoteObjectsAdaptor σ) : Service σ where
  handler state := {
    executeJson := fun id method params error => .ok (adaptor.executeJson state id method params error)
    executeBinary := fun id method params error =>
      .ok (adaptor.executeBinary state id method params error)
  }
  next := adaptor.next

/-- The state of the application, and the calls that were executed, in their order. -/
structure World (σ : Type) where
  state : σ
  executed : List Execution

/-- The world after some calls. -/
def World.after {σ : Type} (service : Service σ) (world : World σ) (executed : List Execution) :
    World σ where
  state := executed.foldl service.next world.state
  executed := world.executed ++ executed

end Rcom
