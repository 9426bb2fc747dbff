import Librcom.Rpc.Link
import Librcom.Rpc.Message

/-! The client's end of remote procedure calls. -/

namespace Rcom

open Effects
open Json (ascii Value Codec)

/--
A client during a call: its link and its buffer, and the result and the error the caller passed.

The result of a text call is a value, and that of a binary call is a buffer.
-/
structure Calling (τ ρ : Type) where
  link : Link τ
  buffer : Bytes
  result : ρ
  error : RPCError

/-- A method of the client during a call. An exception is given by its text. -/
abbrev CallM (τ ρ : Type) := Program (Calling τ ρ) Bytes

namespace RcomClient

variable {τ ρ : Type} (codec : Codec) (serve : Server τ)

/-- Run a function of the link. -/
def onLink {α : Type} (p : Program (Link τ) Bytes α) : CallM τ ρ α :=
  p.within Calling.link fun link call => { call with link := link }

def setErrorTo (error : RPCError) : CallM τ ρ Unit :=
  Program.update fun call => { call with error := error }

/-- The request of a call. -/
def requestOf (id method : Bytes) (params : Value) : Value :=
  -- The members are set one after the other, which makes an object of a null value.
  ((Value.null.set kID (.string id)).set kMethod (.string method)).set kParams params

def makeRequest (id method : Bytes) (params : Value) : CallM τ ρ Unit := do
  let request := requestOf id method params
  -- The buffer is emptied before the request is serialised into it.
  Program.update fun call => { call with buffer := [] }
  let serialised ← Program.ofExcept (codec.dump request)
  Program.update fun call => { call with buffer := serialised }

def sendRequest (type : MessageType) : CallM τ ρ Bool := do
  let call ← Program.get
  let sent ← onLink (Link.send serve call.buffer type)
  if sent then return true
  else do
    -- A link that does not take the message gives no exception.
    setErrorTo { code := RPCError.kSendError, message := ascii "RcomClient: Sending failed" }
    return false

def setError : CallM τ ρ Unit := do
  let call ← Program.get
  match call.link.recvStatus with
  | .kRecvError =>
    setErrorTo { code := RPCError.kReceiveError, message := ascii "RcomClient: Receive failed" }
  | .kRecvClosed =>
    setErrorTo { code := RPCError.kLinkClosed, message := ascii "RcomClient: Link closed" }
  | .kRecvTimeOut =>
    setErrorTo { code := RPCError.kReceiveTimeout, message := ascii "RcomClient: Timeout" }
  -- The other values tell of a message, and leave the text of the error.
  | _ => setErrorTo { call.error with code := 0 }

/-- Receive the response into one of the buffers. -/
def receiveResponse (write : Bytes → Calling τ ρ → Calling τ ρ) : CallM τ ρ Bool := do
  let (contents, obtained) ← onLink Link.recv
  -- The buffer is written by reference, whether a message was obtained or not.
  Program.update (write contents)
  let obtained ← Program.ofExcept obtained
  if obtained then return true
  else do
    setError
    return false

/-- The code that an error member holds, as a number of sixteen bits. -/
def errorCodeOf (member : Value) : Except Bytes Int16 :=
  member.index kErrorCode >>= Value.asInt16 codec.narrow [kErrorCode]

/-- The message that an error member holds. -/
def errorMessageOf (member : Value) : Except Bytes Bytes := member.stringAt kErrorMessage

/-- Take the result from a response that has one. -/
def takeResult (response : Value) : CallM τ Value Unit :=
  if response.contains kResult then do
    -- The result is looked up again, as the source does.
    let result ← Program.ofExcept (response.index kResult)
    Program.update fun call => { call with result := result }
  else return ()

/-- Take the error from a response that has one, the code before the message. -/
def takeError (response : Value) : CallM τ ρ Unit :=
  if response.contains kError then do
    let member ← Program.ofExcept (response.index kError)
    -- The code is stored before the message is looked at.
    let code ← Program.ofExcept (errorCodeOf codec member)
    Program.update fun call => { call with error := { call.error with code := code } }
    let message ← Program.ofExcept (errorMessageOf member)
    Program.update fun call => { call with error := { call.error with message := message } }
  else return ()

def parseResponse : CallM τ Value Unit :=
  Program.attempt
    (do
      let call ← Program.get
      let response ← Program.ofExcept (codec.parse call.buffer)
      takeResult response
      takeError codec response)
    -- An exception of the parser or of a missing part becomes an error.
    fun _ => setErrorTo
      { code := RPCError.kParseError, message := ascii "RcomClient: Parsing response failed" }

def tryExecuteJson (id method : Bytes) (params : Value) : CallM τ Value Unit := do
  makeRequest codec id method params
  if ← sendRequest serve .kTextMessage then
    -- The response is obtained into the buffer of the client.
    if ← receiveResponse fun contents call => { call with buffer := contents } then
      parseResponse codec

def tryExecuteBinary (id method : Bytes) (params : Value) : CallM τ Bytes Unit := do
  makeRequest codec id method params
  if ← sendRequest serve .kBinaryMessage then
    -- The response is obtained into the caller's buffer, and is not parsed.
    let _ ← receiveResponse fun contents call => { call with result := contents }

/-- Turn an exception into an error. -/
def guarded (p : CallM τ ρ Unit) : CallM τ ρ Unit :=
  p.attempt fun what => setErrorTo { code := RPCError.kInternalError, message := what }

def executeJson (id method : Bytes) (params : Value) : CallM τ Value Unit :=
  guarded (tryExecuteJson codec serve id method params)

def executeBinary (id method : Bytes) (params : Value) : CallM τ Bytes Unit :=
  guarded (tryExecuteBinary codec serve id method params)

end RcomClient

end Rcom
