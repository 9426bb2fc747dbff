import Librcom.Effects.Rules
import Librcom.Rpc.Message

/-! The server's end of remote procedure calls: what is done with a message. -/

namespace Rcom

open Effects
open Json (ascii Value Codec)

/--
The object that executes calls.

Both functions are given the id, the method, the parameters, and the error as it was set before the
call. They return the result and the error as they leave them, or throw an exception with a text.
-/
structure IRPCHandler where
  executeJson : Bytes → Bytes → Value → RPCError → Except Bytes (Value × RPCError)
  executeBinary : Bytes → Bytes → Value → RPCError → Except Bytes (Bytes × RPCError)

/-- One call that was executed. -/
structure Execution where
  type : MessageType
  id : Bytes
  method : Bytes
  params : Value

/-- What handling a message did: the calls executed, and the messages passed to the WebSocket. -/
structure Handling where
  executed : List Execution
  sent : List (Bytes × MessageType)

/-- The state before a message is handled. -/
def Handling.fresh : Handling where
  executed := []
  sent := []

/-- A method of the message handler. An exception is given by its text. -/
abbrev HandlerM := Program Handling Bytes

/-- Pass a message to the WebSocket. -/
def websocketSend (message : Bytes) (type : MessageType) : HandlerM Unit :=
  Program.update fun handling => { handling with sent := handling.sent ++ [(message, type)] }

/-- Call the handler. -/
def handlerExecute {α : Type}
    (execute : Bytes → Bytes → Value → RPCError → Except Bytes (α × RPCError))
    (execution : Execution) (error : RPCError) : HandlerM (α × RPCError) := do
  Program.update fun handling => { handling with executed := handling.executed ++ [execution] }
  Program.ofExcept (execute execution.id execution.method execution.params error)

/--
The values that the stack of the process has room for.

The library copies a value and serialises it by a recursion into its items and members. There is always room for
the response to a message that asks for no call.
-/
structure Stack where
  copies : Value → Bool
  dumps : Value → Bool
  flat : ∀ value, value.nesting ≤ 2 → copies value = true ∧ dumps value = true

namespace Stack

/-- A stack that has room for every value. -/
def deep : Stack where
  copies _ := true
  dumps _ := true
  flat _ _ := ⟨rfl, rfl⟩

/-- A process without room on its stack is killed, which leaves it like an exception that nothing catches. -/
def overflow {α : Type} : HandlerM α := Program.raise (ascii "stack overflow")

/-- Copy a value. -/
def copy (stack : Stack) (value : Value) : HandlerM Value :=
  if stack.copies value then return value else overflow

/-- Serialise a value. -/
def dump (stack : Stack) (codec : Codec) (value : Value) : HandlerM Bytes :=
  if stack.dumps value then Program.ofExcept (codec.dump value) else overflow

end Stack

variable (stack : Stack) (codec : Codec) (handler : IRPCHandler)

/-- The parameters of a request, which are null when absent. -/
def getParams (request : Value) : HandlerM Value :=
  if request.contains kParams then do
    let params ← Program.ofExcept (request.index kParams)
    stack.copy params
  else return .null

/-- Serialise a response and pass it on as a text message. -/
def sendResponseOn (response : Value) : HandlerM Unit := do
  let serialised ← stack.dump codec response
  websocketSend serialised .kTextMessage

def handleBinaryRequest (message : Bytes) : HandlerM Unit := do
  let (request, error) := parseRequest codec message
  let (result, response, error) ← show HandlerM (Bytes × Value × RPCError) from
    if error.code = 0 then
      let (id, error) := getId request error
      let (method, error) := getMethod request error
      if method ≠ [] then do
        let params ← getParams stack request
        let (result, error) ← handlerExecute handler.executeBinary
          { type := .kBinaryMessage, id := id, method := method, params := params } error
        -- No response is constructed here, so that it stays null.
        return (result, .null, error)
      else return ([], constructResponse id kUnknownMethod error, error)
    else return ([], constructResponse kNoID kUnknownMethod error, error)
  if error.code = 0 then websocketSend result .kBinaryMessage
  else sendResponseOn stack codec response

def handleJsonRequest (message : Bytes) : HandlerM Unit := do
  let (request, error) := parseRequest codec message
  let response ← show HandlerM Value from
    if error.code = 0 then
      let (id, error) := getId request error
      let (method, error) := getMethod request error
      if method ≠ [] then do
        let params ← getParams stack request
        let (result, error) ← handlerExecute handler.executeJson
          { type := .kTextMessage, id := id, method := method, params := params } error
        -- The result is copied into the response. Of a null result there is nothing to copy.
        let result ← stack.copy result
        return constructResponseWithResult id method error result
      else return constructResponse id kUnknownMethod error
    else return constructResponse kNoID kUnknownMethod error
  sendResponseOn stack codec response

/-- Handle a message by its type. -/
def onmessageOn (message : Bytes) : MessageType → HandlerM Unit
  | .kTextMessage => handleJsonRequest stack codec handler message
  | .kBinaryMessage => handleBinaryRequest stack codec handler message

/-- Handle a message where there is room for every value. -/
def onmessage (message : Bytes) (type : MessageType) : HandlerM Unit :=
  onmessageOn .deep codec handler message type

end Rcom
