import Librcom.Bytes.Strings
import Librcom.Json.Codec
import Librcom.WebSocket.Constants

/-! The messages of remote procedure calls: requests, errors, and the envelope of a response. -/

namespace Rcom

open Json (ascii Value)

/-- The members of requests and responses. -/
def kID : Bytes := ascii "id"
def kMethod : Bytes := ascii "method"
def kParams : Bytes := ascii "params"
def kResult : Bytes := ascii "result"
def kError : Bytes := ascii "error"
def kErrorCode : Bytes := ascii "code"
def kErrorMessage : Bytes := ascii "message"
def kNoID : Bytes := ascii "unknown"
def kUnknownMethod : Bytes := ascii "unknown"

/-- The error of a call. The code is zero when there is none. -/
structure RPCError where
  code : Int16
  message : Bytes
  deriving DecidableEq, Repr

namespace RPCError

def kParseError : Int16 := -32700
def kInvalidRequest : Int16 := -32600
def kMethodNotFound : Int16 := -32601
def kInvalidParams : Int16 := -32602
def kSendError : Int16 := -32603
def kReceiveError : Int16 := -32604
def kReceiveTimeout : Int16 := -32605
def kLinkClosed : Int16 := -32606
def kInternalError : Int16 := -32607

/-- An error as it is constructed. -/
def fresh : RPCError where
  code := 0
  message := []

end RPCError

/-- The envelope of a response, with an error when there is a code for one. -/
def constructResponse (id method : Bytes) (error : RPCError) : Value :=
  let response := Value.null.set kID (.string (if id ≠ [] then id else kNoID))
  let response := response.set kMethod (.string (if method ≠ [] then method else kUnknownMethod))
  -- The code alone decides whether there is an error member.
  if error.code ≠ 0 then
    -- The message goes through a C string, and an empty one is replaced.
    let message := cString error.message
    let member := Value.null.set kErrorMessage (.string (ascii "No message was given"))
    let member := if message ≠ [] then member.set kErrorMessage (.string message) else member
    response.set kError (member.set kErrorCode (.integer error.code.toInt))
  else response

/-- The envelope of a response with a result, which is left out when it is null. -/
def constructResponseWithResult (id method : Bytes) (error : RPCError) (result : Value) : Value :=
  match result with
  -- A null result leaves the envelope as it is, without a result member.
  | .null => constructResponse id method error
  | result => (constructResponse id method error).set kResult result

/-- Parse a request, or note that it does not parse. -/
def parseRequest (codec : Json.Codec) (message : Bytes) : Value × RPCError :=
  match codec.parse message with
  | .ok request => (request, .fresh)
  | .error _ =>
    (.null, { code := RPCError.kParseError, message := ascii "Failed to parse the request" })

/-- The method of a request. One that is no string counts as missing. -/
def getMethod (request : Value) (error : RPCError) : Bytes × RPCError :=
  match request.stringAt kMethod with
  | .ok method => (method, error)
  -- This error replaces the one that was passed in.
  | .error _ => ([], { code := RPCError.kInvalidRequest, message := ascii "Missing method" })

/-- The id of a request, which may be absent. -/
def getId (request : Value) (error : RPCError) : Bytes × RPCError :=
  if request.contains kID then
    match request.stringAt kID with
    | .ok id => (id, error)
    | .error _ => ([], { code := RPCError.kInvalidRequest, message := ascii "Invalid ID" })
  -- Without an id nothing is wrong: the response then names an unknown one.
  else ([], error)

end Rcom
