import Librcom.Rpc.Client
import Librcom.Rpc.Objects

/-! Stubs, which call remote objects over the links of their clients. -/

namespace Rcom

open Effects
open Json (ascii Value Codec)

/-- A stub has a client, which has a link and a buffer. -/
structure RemoteStub (τ : Type) where
  link : Link τ
  buffer : Bytes

namespace RemoteStub

/-- The client of a stub during a call, whose error is one of its own. -/
def calling {τ : Type} (stub : RemoteStub τ) (result : Value) : Calling τ Value where
  link := stub.link
  buffer := stub.buffer
  result := result
  error := .fresh

variable {τ : Type} (codec : Codec) (serve : Server τ)

def kNoID : Bytes := ascii "none"

/-- A method of a stub. An exception is given by its text. -/
abbrev StubM (τ : Type) := Program (RemoteStub τ) Bytes

/-- Execute a call of the client. Exceptions are turned into errors. -/
def tryExecute (id method : Bytes) (params : Value) : CallM τ Value (Bool × Value) := do
  Program.attempt (RcomClient.executeJson codec serve id method params) fun what =>
    RcomClient.setErrorTo { code := 1, message := what }
  let call ← Program.get
  -- Success is the absence of an error code, whatever the result holds.
  return (call.error.code = 0, call.result)

/-- Whether a call succeeded, and the result that was passed to it, as the call leaves it. -/
def execute (id method : Bytes) (params result : Value) : StubM τ (Bool × Value) :=
  (tryExecute codec serve id method params).within (fun stub => stub.calling result) fun call _ =>
    { link := call.link, buffer := call.buffer }

def executeWithResult (id method : Bytes) (result : Value) : StubM τ (Bool × Value) :=
  execute codec serve id method .null result

def executeWithParams (id method : Bytes) (params : Value) : StubM τ Bool := do
  let (success, _) ← execute codec serve id method params .null
  return success

def executeSimpleRequest (id method : Bytes) : StubM τ Bool := do
  let (success, _) ← execute codec serve id method .null .null
  return success

end RemoteStub

/-- A call of a stub. Its functions come with and without an id, parameters and a result. -/
structure StubCall where
  id : Option Bytes
  method : Bytes
  params : Option Value
  result : Option Value

namespace StubCall

variable (call : StubCall)

/-- The id that is sent, which says so when there is none. -/
def sentId : Bytes := call.id.getD RemoteStub.kNoID

/-- The parameters that are sent, which are null when there are none. -/
def sentParams : Value := call.params.getD .null

/-- The call as the server executes it. -/
def execution : Execution where
  type := .kTextMessage
  id := call.sentId
  method := call.method
  params := call.sentParams

/-- Run the function of the stub. The result is given if one was passed. -/
def perform {τ : Type} (codec : Codec) (serve : Server τ) :
    RemoteStub.StubM τ (Bool × Option Value) :=
  match call.params, call.result with
  | some params, some result => do
    let (success, result) ← RemoteStub.execute codec serve call.sentId call.method params result
    return (success, some result)
  | none, some result => do
    let (success, result) ← RemoteStub.executeWithResult codec serve call.sentId call.method result
    return (success, some result)
  | some params, none => do
    let success ← RemoteStub.executeWithParams codec serve call.sentId call.method params
    return (success, none)
  -- The variants without params or a result pass a null value that is their own.
  | none, none => do
    let success ← RemoteStub.executeSimpleRequest codec serve call.sentId call.method
    return (success, none)

end StubCall

/-- A server of calls, and the stubs that call it, each over a link of its own. -/
structure RemoteSite (ι σ : Type) where
  world : World σ
  stubs : ι → RemoteStub (World σ)

namespace RemoteSite

variable {ι σ : Type}

/-- A stub of the site, whose link leads to the server. -/
def stub (site : RemoteSite ι σ) (client : ι) : RemoteStub (World σ) :=
  { site.stubs client with link := { (site.stubs client).link with server := site.world } }

variable [DecidableEq ι]

/-- The site after one of its stubs called the server. -/
def after (site : RemoteSite ι σ) (client : ι) (stub : RemoteStub (World σ)) : RemoteSite ι σ where
  world := stub.link.server
  stubs := Function.update site.stubs client stub

variable (codec : Codec) (service : Service σ)

/-- Handle a message of a link, and execute the call that it asks for. -/
def serve : Server (World σ) := fun world message =>
  -- Every message is handled with a fresh error, as the handler makes one for each.
  let handling := (onmessage codec (service.handler world.state) message.1 message.2).after 0 .fresh
  (handling.sent, world.after service handling.executed)

/-- A call of one of the stubs. -/
def call (client : ι) (called : StubCall) : Program (RemoteSite ι σ) Bytes (Bool × Option Value) :=
  -- The stub's own link is swapped in and out; the server is shared by all stubs.
  (called.perform codec (serve codec service)).within (fun site => site.stub client)
    fun stub site => site.after client stub

/-- Calls of any of the stubs, one after the other. -/
def session : List (ι × StubCall) →
    Program (RemoteSite ι σ) Bytes (List (Bool × Option Value))
  | [] => return []
  | (client, called) :: later => do
    let outcome ← call codec service client called
    let outcomes ← session later
    return outcome :: outcomes

end RemoteSite

end Rcom
