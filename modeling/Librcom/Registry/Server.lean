import Librcom.Effects.Rules
import Librcom.Json.Codec
import Librcom.Registry.Store

/-! The server of the registry: what is done with a message. -/

namespace Rcom

open Effects
open Json (ascii Value Codec)

def kRequest : Bytes := ascii "request"
def kTopic : Bytes := ascii "topic"
def kAddress : Bytes := ascii "address"
def kSuccess : Bytes := ascii "success"
def kFailMessage : Bytes := ascii "message"
def kRegister : Bytes := ascii "register"
def kUnregister : Bytes := ascii "unregister"
def kGet : Bytes := ascii "get"

/-- The exceptions in handling a message, by their text. -/
inductive ServerFault where
  | jsonException (what : Bytes)
  | runtimeError (what : Bytes)

/-- The registry, and the messages passed to the WebSocket. -/
structure Serving where
  registry : Registry
  sent : List (Bytes × MessageType)

namespace RegistryServer

/-- A method of the server. -/
abbrev ServerM := Program Serving ServerFault

def ofJson {α : Type} (result : Except Bytes α) : ServerM α :=
  Program.ofExcept (result.mapError .jsonException)

def ofRuntime {α : Type} (result : Except Bytes α) : ServerM α :=
  Program.ofExcept (result.mapError .runtimeError)

def set (topic : Bytes) (address : Address) : ServerM Unit := do
  let serving ← Program.get
  let registry ← ofRuntime (serving.registry.set topic address)
  Program.update fun serving => { serving with registry := registry }

def get (topic : Bytes) : ServerM (Option Address) := do
  let serving ← Program.get
  return serving.registry.get topic

def remove (topic : Bytes) : ServerM Unit :=
  Program.update fun serving => { serving with registry := serving.registry.remove topic }

/-- The text `{"success":true}`. -/
def successReply : Bytes := ascii "\x7b\"success\":true\x7d"

/-- The text `{"success":true, "topic": "...", "address": "..."}`. -/
def addressReply (topic : Bytes) (address : Address) : Bytes :=
  ascii "\x7b\"success\":true, \"topic\": \"" ++ cString topic ++
    ascii "\", \"address\": \"" ++ cString address.tostring ++ ascii "\"\x7d"

/-- The text `{"success":false, "message":"..."}`. -/
def failReply (message : Bytes) : Bytes :=
  ascii "\x7b\"success\":false, \"message\":\"" ++ cString message ++ ascii "\"\x7d"

def sendResponse (response : Bytes) : ServerM Unit :=
  Program.update fun serving => { serving with sent := serving.sent ++ [(response, .kTextMessage)] }

def sendAddress (topic : Bytes) (address : Address) : ServerM Unit :=
  sendResponse (addressReply topic address)

def sendEmptyAddress : ServerM Unit := sendResponse successReply

def sendFail (message : Bytes) : ServerM Unit := sendResponse (failReply message)

def sendSuccess : ServerM Unit := sendResponse successReply

variable (host : Host)

/-- What a request to register tries to do. -/
def tryRegister (message : Value) : ServerM Unit := do
  let topic ← ofJson (message.stringAt kTopic)
  -- The address is read before the registry is touched, so a bad one changes nothing.
  let addressString ← ofJson (message.stringAt kAddress)
  let address ← ofRuntime ((Address.parse host addressString).mapError ascii)
  set topic address
  sendSuccess

def handleRegister (message : Value) : ServerM Unit :=
  -- All exceptions are caught here, also those of the JSON library.
  (tryRegister host message).attempt fun _ => sendFail (ascii "RegistryServer: set failed")

/-- What a request to unregister tries to do. -/
def tryUnregister (message : Value) : ServerM Unit := do
  let topic ← ofJson (message.stringAt kTopic)
  remove topic
  sendSuccess

def handleUnregister (message : Value) : ServerM Unit :=
  (tryUnregister message).attempt fun _ => sendFail (ascii "RegistryServer: remove failed")

/-- What a request to look up tries to do. -/
def tryGet (message : Value) : ServerM Unit := do
  -- An address is constructed first, which fails on a host without an address of its own.
  let _ ← ofRuntime (Address.fresh host)
  let topic ← ofJson (message.stringAt kTopic)
  match ← get topic with
  | some address => sendAddress topic address
  | none => sendEmptyAddress

def handleGet (message : Value) : ServerM Unit :=
  (tryGet host message).attempt fun
    | .runtimeError what => sendFail what
    -- An exception of the JSON library is left to the caller.
    | fault => Program.raise fault

def handleJsonMessage (message : Value) : ServerM Unit := do
  let request ← ofJson (message.stringAt kRequest)
  if request = kRegister then handleRegister host message
  else if request = kUnregister then handleUnregister message
  else if request = kGet then handleGet host message
  else sendFail (ascii "Unknown request")

def handleMessage (codec : Codec) (message : Bytes) : ServerM Unit := do
  let request ← ofJson (codec.parse message)
  handleJsonMessage host request

/--
Handle a message of either type.

No exception but the two kinds is thrown, so that the handler for any other is left out.
-/
def onmessage (codec : Codec) (message : Bytes) : ServerM Unit :=
  Program.attempt (handleMessage host codec message) fun
    | .jsonException what => sendFail what
    | .runtimeError what => sendFail what

end RegistryServer

end Rcom
