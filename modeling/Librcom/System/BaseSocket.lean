import Librcom.Effects.Conduct
import Librcom.Effects.Ledger
import Librcom.WebSocket.SocketUse

/-! Sockets as the system sees them: descriptors, and the system calls that are made on them. -/

namespace Rcom

open Effects

/-- A system call, with the descriptor that it works on and the one that it gave. -/
inductive SystemCall where
  | socket (result : Int)
  | bind (sockfd : Int)
  | listen (sockfd : Int)
  | accept (sockfd result : Int)
  | poll (sockfd : Int)
  | recv (sockfd : Int)
  | send (sockfd : Int)
  | setsockopt (sockfd : Int)
  | shutdown (sockfd : Int)
  | close (sockfd : Int)
  deriving DecidableEq, Repr

/-- A number that stands for a descriptor is not negative. -/
def descriptor (sockfd : Int) : Option Int := if 0 ≤ sockfd then some sockfd else none

/-- What a system call is to the descriptors. -/
def SystemCall.event : SystemCall → Ledger.Event Int
  | .socket result => ⟨none, false, descriptor result⟩
  | .accept sockfd result => ⟨descriptor sockfd, false, descriptor result⟩
  | .close sockfd => ⟨descriptor sockfd, true, none⟩
  | .bind sockfd | .listen sockfd | .poll sockfd | .recv sockfd | .send sockfd | .setsockopt sockfd
  | .shutdown sockfd => ⟨descriptor sockfd, false, none⟩

/-- How a system call turns out. -/
structure CallOutcome where
  result : Int
  /-- Whether `errno` is `EAGAIN`. -/
  again : Bool
  /-- Whether `poll` found data to be read. -/
  pollin : Bool

/-- What a method of a WebSocket does with its socket, and what it answers. -/
structure Conduct where
  uses : List SocketUse
  status : RecvStatus
  message : Bytes
  success : Bool
  /-- A handshake fails with a runtime error. -/
  fails : Bool

/-- The system calls that were made, with the outcomes of those to come. -/
structure Kernel where
  calls : List SystemCall
  outcomes : Stream' CallOutcome
  /-- What the methods of the WebSockets will do. -/
  conducts : Stream' Conduct

/-- The system before any call. -/
def Kernel.boot (outcomes : Stream' CallOutcome) (conducts : Stream' Conduct) : Kernel where
  calls := []
  outcomes := outcomes
  conducts := conducts

def kInvalidSocket : Int := -1

structure BaseSocket where
  sockfd : Int

/-- A method of a socket. -/
abbrev BaseSocketM := Program (BaseSocket × Kernel) Fault

namespace BaseSocket

/-- Make a system call. -/
def linux (call : Int → CallOutcome → SystemCall) : BaseSocketM CallOutcome :=
  Program.act fun s =>
    (s.2.outcomes.head, s.1,
      { s.2 with
        calls := s.2.calls ++ [call s.1.sockfd s.2.outcomes.head]
        outcomes := s.2.outcomes.tail })

def isConnected (socket : BaseSocket) : Bool := socket.sockfd != kInvalidSocket

def writeRound (length sent : Nat) : BaseSocketM (Nat ⊕ Bool) := do
  if sent < length then
    let n := (← linux fun sockfd _ => .send sockfd).result
    if n < 0 then return .inr false
    -- A call that takes nothing ends the writing as an error does.
    else if n = 0 then return .inr false
    else return .inl (sent + n.toNat)
  else return .inr true

/-- Send bytes until all are sent or the system does not take them. -/
def write (length : Nat) : BaseSocketM Bool := Program.iterate (writeRound length) 0

def readRound (length received : Nat) : BaseSocketM (Nat ⊕ Bool) := do
  if received < length then
    let outcome ← linux fun sockfd _ => .recv sockfd
    let n := outcome.result
    -- The result -1 is not among the errors, and is added as an unsigned number.
    if n < -1 then
      if !outcome.again then return .inr false
      else return .inl received
    else if n = 0 then return .inr false
    else return .inl ((received + n) % 2 ^ 64).toNat
  else return .inr true

/-- Receive bytes until enough are received or the stream ends. -/
def read (length : Nat) : BaseSocketM Bool := Program.iterate (readRound length) 0

def doWait : BaseSocketM WaitStatus := do
  let outcome ← linux fun sockfd _ => .poll sockfd
  if outcome.result < 0 then return .kWaitError
  else if outcome.result > 0 then
    -- An event other than data, such as a hang-up, is an error.
    if outcome.pollin then return .kWaitOK else return .kWaitError
  else return .kWaitTimeout

def wait (timeout : ℚ) : BaseSocketM WaitStatus := do
  -- A negative timeout is refused before the system is asked.
  if timeout ≥ 0 then doWait else return .kWaitError

def setNodelay (_value : Bool) : BaseSocketM Unit := do
  let _ ← linux fun sockfd _ => .setsockopt sockfd
  return ()

/-- Open a socket that listens for connections. -/
def listen : BaseSocketM Bool := do
  let sockfd := (← linux fun _ outcome => .socket outcome.result).result
  Program.update fun s => ({ s.1 with sockfd := sockfd }, s.2)
  if sockfd ≠ kInvalidSocket then
    let ret := (← linux fun sockfd _ => .bind sockfd).result
    if ret = 0 then
      let ret := (← linux fun sockfd _ => .listen sockfd).result
      if ret = 0 then return true else return false
    -- A socket that is not bound stays open until the object is closed.
    else return false
  else return false

/-- Accept a connection, if there is one within the timeout. -/
def accept (timeout : ℚ) : BaseSocketM Int := do
  if (← wait timeout) = .kWaitOK then
    -- A call that fails gives a negative number, which is passed on.
    let clientfd := (← linux fun sockfd outcome => .accept sockfd outcome.result).result
    return clientfd
  else return kInvalidSocket

def drainRound (_ : Unit) : BaseSocketM (Unit ⊕ Unit) := do
  let n := (← linux fun sockfd _ => .recv sockfd).result
  -- The loop reads until the peer has nothing more to say, or an error.
  if n ≤ 0 then return .inr () else return .inl ()

/-- Hand the descriptor back to the system, and forget it. -/
def release : BaseSocketM Unit := do
  let _ ← linux fun sockfd _ => .close sockfd
  Program.update fun s => ({ s.1 with sockfd := kInvalidSocket }, s.2)

/-- Shut the connection down, read what is left of it, and close the descriptor. -/
def close : BaseSocketM Unit := do
  -- A second close finds no descriptor and calls nothing.
  if (← Program.get).1.sockfd ≠ kInvalidSocket then
    let _ ← linux fun sockfd _ => .shutdown sockfd
    Program.iterate drainRound ()
    release
  else return ()

end BaseSocket

/-- A call of the interface of a socket, carried out by the system. -/
def SocketUse.perform : SocketUse → BaseSocketM Unit
  | .wait timeout => do
    let _ ← BaseSocket.wait timeout
    return ()
  | .read length => do
    let _ ← BaseSocket.read length
    return ()
  | .send call => do
    let _ ← BaseSocket.write call.bytes.length
    return ()
  | .close => BaseSocket.close
  | .nodelay value => BaseSocket.setNodelay value

/-- Make calls on a socket, one after the other. -/
def performAll : List SocketUse → BaseSocketM Unit
  | [] => return ()
  | use :: rest => do
    -- What a use answers is not looked at, for the method has already decided what it does.
    use.perform
    performAll rest

/-- A method of a WebSocket does what it has in store. -/
def nextConduct : BaseSocketM Conduct := do
  let conduct ← Program.act fun s =>
    (s.2.conducts.head, s.1, { s.2 with conducts := s.2.conducts.tail })
  -- The calls are made before the method answers.
  performAll conduct.uses
  return conduct

/-- The constructor of a server-side WebSocket, whose members are destroyed if the handshake fails. -/
def openServerSide : BaseSocketM Unit :=
  (do
    let conduct ← nextConduct
    if conduct.fails then Program.raise (.runtimeError "handshake")
    else return () : BaseSocketM Unit).attempt fun e => do
      -- The exception goes on after the descriptor has been given back.
      BaseSocket.close
      Program.raise e

/-- The constructor of a server socket, whose member is destroyed if it cannot be opened. -/
def openServerSocket : BaseSocketM Unit :=
  (do
    if ← BaseSocket.listen then return ()
    else Program.raise (.runtimeError "ServerSocket: open failed") : BaseSocketM Unit).attempt fun e => do
      BaseSocket.close
      Program.raise e

end Rcom
