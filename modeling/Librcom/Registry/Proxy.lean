import Librcom.Registry.Server
import Librcom.System.Linux

/-! The client of the registry, and the link that neither loses nor delays a message. -/

namespace Rcom

open Effects
open Json (ascii Value Codec)

/-- The topics that a link may have: small letters and hyphens, the first of which is a letter. -/
def isValidTopic : Bytes → Bool
  | [] => false
  | first :: rest =>
    (97 ≤ first && first ≤ 122) && rest.all (fun byte => (97 ≤ byte && byte ≤ 122) || byte == 45) &&
      (2 ≤ rest.length && rest.length ≤ 64)

/-- The classes a proxy is built on, in a world with states of type `σ`. -/
structure ProxyPlatform (σ : Type) where
  rcomTime : Program σ Fault ℚ
  rcomSleep : ℚ → Program σ Fault Unit
  /-- `IWebSocket::send` of a text message. -/
  websocketSend : Bytes → Program σ Fault Bool
  /-- `IWebSocket::recv` with a timeout. -/
  websocketRecv : ℚ → Program σ Fault (RecvStatus × Bytes)

namespace RegistryProxy

/-- The text `{"request": "register", "topic": "...", "address": "..."}`. -/
def registerRequest (topic : Bytes) (address : Address) : Bytes :=
  ascii "\x7b\"request\": \"register\", \"topic\": \"" ++ cString topic ++
    ascii "\", \"address\": \"" ++ cString address.tostring ++ ascii "\"\x7d"

/-- The text `{"request": "get", "topic": "..."}`. -/
def getRequest (topic : Bytes) : Bytes :=
  ascii "\x7b\"request\": \"get\", \"topic\": \"" ++ cString topic ++ ascii "\"\x7d"

/-- The text `{"request": "unregister", "topic": "..."}`. -/
def unregisterRequest (topic : Bytes) : Bytes :=
  ascii "\x7b\"request\": \"unregister\", \"topic\": \"" ++ cString topic ++ ascii "\"\x7d"

end RegistryProxy

namespace ProxyPlatform

open RegistryProxy

variable {σ : Type} (platform : ProxyPlatform σ) (host : Host) (codec : Codec)

def sendRequest (request : Bytes) : Program σ Fault Unit := do
  let success ← platform.websocketSend request
  if success then return ()
  else Program.raise (.runtimeError "RegistryProxy::send_request failed")

def readResponse (timeout : ℚ) : Program σ Fault Bytes := do
  let (status, response) ← platform.websocketRecv timeout
  match status with
  | .kRecvTimeOut => Program.raise (.runtimeError "RegistryProxy::read_response: Time-out")
  | .kRecvError => Program.raise (.runtimeError "RegistryProxy::read_response: Error")
  -- A closed link counts as received here, with whatever is in the buffer.
  | _ => return response

/-- A result, or an exception of the library as a failure of the proxy. -/
def orFail {α : Type} (result : Except Bytes α) (what : String) : Program σ Fault α :=
  Program.ofExcept (result.mapError fun _ => .runtimeError what)

def parseResponse (response : Bytes) : Program σ Fault Value :=
  -- The text is parsed as a C string, up to its first null character.
  orFail (codec.parse (cString response)) "RegistryProxy::parse_response failed"

def isSuccess (response : Value) : Program σ Fault Bool :=
  orFail (response.booleanAt kSuccess) "RegistryProxy: invalid response"

def assertSuccess (response : Value) : Program σ Fault Unit :=
  match response.booleanAt kSuccess with
  | .ok true => return ()
  -- A missing member, one that is no boolean, and a false one are all refused.
  | _ => Program.raise (.runtimeError "RegistryProxy::assert_success failed")

def responseAssertSuccess : Program σ Fault Unit := do
  let response ← platform.readResponse 10
  let json ← parseResponse codec response
  assertSuccess json

/-- The address in a response, which is an exception where there is none. -/
def getAddress (response : Value) : Program σ Fault Bytes :=
  orFail (response.stringAt kAddress) "RegistryProxy: invalid response"

/-- Read a response to a lookup, and give the address that was found. -/
def readAddress (timeout : ℚ) : Program σ Fault (Option Address) := do
  let response ← platform.readResponse timeout
  let json ← parseResponse codec response
  if ← isSuccess json then do
    let addressString ← getAddress json
    let address ← Program.ofExcept ((Address.parse host addressString).mapError .runtimeError)
    return some address
  -- A refusal is no exception: the topic is asked for again.
  else return none

def set (topic : Bytes) (address : Address) : Program σ Fault Unit := do
  platform.sendRequest (registerRequest topic address)
  platform.responseAssertSuccess codec

def remove (topic : Bytes) : Program σ Fault Unit := do
  platform.sendRequest (unregisterRequest topic)
  platform.responseAssertSuccess codec

/-- The rest of a round of polling, once the request was sent. -/
def awaitAddress (startTime timeout : ℚ) : Program σ Fault (Unit ⊕ Option Address) := do
  let found ← platform.readAddress host codec timeout
  let now ← platform.rcomTime
  let timePassed := now - startTime
  let timedOut := timeout ≤ timePassed
  if found.isNone ∧ ¬ timedOut then do
    -- Between two questions the proxy sleeps half a second, or what is left of the time.
    platform.rcomSleep (min (1 / 2) (timeout - timePassed))
    return .inl ()
  else return .inr found

/-- One round of polling. -/
def poll (topic : Bytes) (startTime timeout : ℚ) : Program σ Fault (Unit ⊕ Option Address) := do
  platform.sendRequest (getRequest topic)
  platform.awaitAddress host codec startTime timeout

/-- Poll until the topic has an address or time is up. -/
def get (topic : Bytes) (timeout : ℚ) : Program σ Fault (Option Address) := do
  let startTime ← platform.rcomTime
  Program.iterate (fun _ => platform.poll host codec topic startTime timeout) ()

end ProxyPlatform

namespace RegistryServer

variable (host : Host) (codec : Codec)

/-- What handling a message leaves. -/
def handle (registry : Registry) (message : Bytes) : Serving :=
  (onmessage host codec message).after 0 { registry := registry, sent := [] }

end RegistryServer

/-- A proxy, its system, and the server at the other end of its link. -/
structure ProxyState where
  linux : Linux
  /-- The registry of the server, as each request to come finds it. -/
  registries : Stream' Registry
  /-- The replies that were sent and not received yet. -/
  inbox : List Bytes

namespace RegistryProxy

/-- A method of the proxy. -/
abbrev ProxyM := Program ProxyState Fault

def rcomTime : ProxyM ℚ :=
  Linux.rcomTime.within ProxyState.linux fun linux state => { state with linux := linux }

def rcomSleep (seconds : ℚ) : ProxyM Unit :=
  (Linux.rcomSleep seconds).within ProxyState.linux fun linux state => { state with linux := linux }

variable (host : Host) (codec : Codec)

/-- Send a message to the server, which replies to it. -/
def websocketSend (message : Bytes) : ProxyM Bool :=
  Program.act fun state =>
    -- What the other clients did in the meantime is in the registry that this request finds.
    let serving := RegistryServer.handle host codec state.registries.head message
    (true, { state with
      registries := state.registries.tail
      inbox := state.inbox ++ serving.sent.map Prod.fst })

/-- Receive a reply, which is on the link when it was sent. -/
def websocketRecv (_timeout : ℚ) : ProxyM (RecvStatus × Bytes) :=
  Program.act fun state =>
    match state.inbox with
    | reply :: rest => ((.kRecvText, reply), { state with inbox := rest })
    | [] => ((.kRecvTimeOut, []), state)

/-- The classes of a proxy on a link that neither loses nor delays a message. -/
def reliable : ProxyPlatform ProxyState where
  rcomTime := rcomTime
  rcomSleep := rcomSleep
  websocketSend := websocketSend host codec
  websocketRecv := websocketRecv

/-- Look up a topic over such a link. -/
def get (topic : Bytes) (timeout : ℚ) : ProxyM (Option Address) :=
  (reliable host codec).get host codec topic timeout

end RegistryProxy

end Rcom
