import Librcom.Json.Value
import Librcom.Registry.Address
import Librcom.System.BaseSocket

/-! How a process finds the registry: it broadcasts a question, and a server on the registry's host answers. -/

namespace Rcom

open Effects
open Json (ascii)

/-- A system call for datagrams, with the descriptor that it works on or the one that it gave. -/
inductive DatagramCall where
  | socket (result : Int)
  | setsockopt (sockfd : Int)
  | bind (sockfd : Int) (addr : Address)
  | sendto (sockfd : Int) (message : Bytes) (addr : Address)
  | recvfrom (sockfd : Int)
  | close (sockfd : Int)
  deriving DecidableEq, Repr

/-- What a call is to the descriptors. -/
def DatagramCall.event : DatagramCall → Ledger.Event Int
  | .socket result => ⟨none, false, descriptor result⟩
  | .close sockfd => ⟨descriptor sockfd, true, none⟩
  | .setsockopt sockfd | .bind sockfd _ | .sendto sockfd _ _ | .recvfrom sockfd =>
    ⟨descriptor sockfd, false, none⟩

/-- The datagram that a call sends, and where it goes. -/
def DatagramCall.sending : DatagramCall → Option (Bytes × Address)
  | .sendto _ message addr => some (message, addr)
  | _ => none

/-- The calls that were made, with the outcomes of those to come. -/
structure Datagrams where
  calls : List DatagramCall
  /-- The results of the calls that receive nothing. -/
  results : Stream' Int
  /-- The datagrams to come with their senders, or none where `recvfrom` fails or has waited in vain. -/
  receptions : Stream' (Option (Bytes × Address))

namespace Datagrams

/-- The datagrams that were sent. -/
def sent (datagrams : Datagrams) : List (Bytes × Address) :=
  datagrams.calls.filterMap DatagramCall.sending

/-- The descriptors that are open, unless a call was made on one that is not. -/
def held (datagrams : Datagrams) : Option (Multiset Int) :=
  Ledger.holding (datagrams.calls.map DatagramCall.event)

/-- The system after a call that receives nothing. -/
def called (datagrams : Datagrams) (made : DatagramCall) : Datagrams :=
  { datagrams with calls := datagrams.calls ++ [made], results := datagrams.results.tail }

/-- Make such a call. -/
def call (made : Int → DatagramCall) : Program Datagrams Fault Int :=
  Program.act fun datagrams =>
    (datagrams.results.head, datagrams.called (made datagrams.results.head))

/-- The system after a call to `recvfrom`. -/
def receiving (datagrams : Datagrams) (sockfd : Int) : Datagrams :=
  { datagrams with
    calls := datagrams.calls ++ [.recvfrom sockfd]
    receptions := datagrams.receptions.tail }

/-- What a buffer takes of a datagram. -/
def cut (length : Nat) (reception : Option (Bytes × Address)) : Option (Bytes × Address) :=
  -- The rest of a datagram that is too long is lost.
  reception.map fun (datagram, sender) => (datagram.take length, sender)

/-- Receive a datagram in a buffer. -/
def recvfrom (sockfd : Int) (length : Nat) : Program Datagrams Fault (Option (Bytes × Address)) :=
  Program.act fun datagrams =>
    (cut length datagrams.receptions.head, datagrams.receiving sockfd)

end Datagrams

def INADDR_ANY : UInt32 := 0
def INADDR_BROADCAST : UInt32 := 0xFFFFFFFF

/-- The length of the buffer that a datagram is received in, which has a null character at its end. -/
def kDatagramBufferLength : Nat := 1024

structure RegistryLookup where
  port : UInt16
  socket : Int
  address : Bytes

namespace RegistryLookup

/-- A method of a lookup. -/
abbrev LookupM := Program (RegistryLookup × Datagrams) Fault

def create (port : UInt16) : RegistryLookup where
  port := port
  socket := -1
  address := []

/-- A system call on the socket of the lookup. -/
def call (made : RegistryLookup → Int → DatagramCall) : LookupM Int := do
  let (lookup, _) ← Program.get
  (Datagrams.call (made lookup)).within Prod.snd fun datagrams s => (s.1, datagrams)

def close : LookupM Unit := do
  let _ ← call fun lookup _ => .close lookup.socket
  return ()

def createSocket : LookupM Unit := do
  let socket ← call fun _ result => .socket result
  Program.update fun s => ({ s.1 with socket := socket }, s.2)
  -- Nothing is open yet when the first call fails, and nothing has to be closed.
  if socket < 0 then Program.raise (.runtimeError "Failed to create socket.")
  else
    -- Broadcasting is enabled first, and then the timeout is set.
    let result ← call fun lookup _ => .setsockopt lookup.socket
    if result < 0 then do
      close
      Program.raise (.runtimeError "Failed to enable broadcast.")
    else
      let result ← call fun lookup _ => .setsockopt lookup.socket
      if result < 0 then do
        close
        Program.raise (.runtimeError "Failed to set the timeout.")
      else return ()

def broadcastMessage : Bytes := ascii "who-has-the-registry-ip"

def sendMessage : LookupM Unit := do
  let bytesSent ← call fun lookup _ =>
    .sendto lookup.socket broadcastMessage ⟨INADDR_BROADCAST, lookup.port⟩
  if bytesSent < 0 then do
    close
    Program.raise (.runtimeError "Failed to send broadcast message.")
  else return ()

/-- The address after a reception. A datagram without bytes, and a failure, leave the one of before. -/
def received (address : Bytes) : Option (Bytes × Address) → Bytes
  | some (datagram, _) => if datagram.length > 0 then cString datagram else address
  | none => address

def getResponse : LookupM Unit := do
  let (lookup, _) ← Program.get
  let response ← (Datagrams.recvfrom lookup.socket (kDatagramBufferLength - 1)).within Prod.snd
    fun datagrams s => (s.1, datagrams)
  Program.update fun s => ({ s.1 with address := received s.1.address response }, s.2)

/-- A round of the loop, which ends with an address or after eight rounds. -/
def lookupRound (i : Nat) : LookupM (Nat ⊕ Unit) := do
  if i < 8 then
    sendMessage
    getResponse
    -- A question that is not answered in time is asked once more.
    if (← Program.get).1.address ≠ [] then return .inr () else return .inl (i + 1)
  else return .inr ()

def lookup : LookupM Bytes := do
  createSocket
  Program.iterate lookupRound 0
  -- The socket is closed before it is known whether there was an answer.
  close
  let (lookup, _) ← Program.get
  if lookup.address = [] then Program.raise (.runtimeError "Failed to receive data.")
  else return lookup.address

end RegistryLookup

/-- A server that answers lookups, and what each reading of its flag to quit gives. -/
structure RegistryLookupServer where
  socket : Int
  address : Bytes
  quits : Stream' Bool

namespace RegistryLookupServer

/-- A method of the server, and the body of its thread. -/
abbrev LookupServerM := Program (RegistryLookupServer × Datagrams) Fault

def create (address : Bytes) (quits : Stream' Bool) : RegistryLookupServer where
  socket := -1
  address := address
  quits := quits

/-- A system call on the socket of the server. -/
def call (made : RegistryLookupServer → Int → DatagramCall) : LookupServerM Int := do
  let (server, _) ← Program.get
  (Datagrams.call (made server)).within Prod.snd fun datagrams s => (s.1, datagrams)

/-- Open the socket. What fails here is thrown without closing it. -/
def init (port : UInt16) : LookupServerM Unit := do
  let socket ← call fun _ result => .socket result
  Program.update fun s => ({ s.1 with socket := socket }, s.2)
  if socket < 0 then Program.raise (.runtimeError "Failed to create socket.")
  else
    let result ← call fun server _ => .setsockopt server.socket
    -- The destructor does not run when the constructor throws, so the descriptor stays open.
    if result < 0 then Program.raise (.runtimeError "Failed to enable broadcast.")
    else
      let result ← call fun server _ => .bind server.socket ⟨INADDR_ANY, port⟩
      if result < 0 then Program.raise (.runtimeError "Failed to bind socket to address.")
      else return ()

/-- Read the flag to quit, which another thread may set. -/
def quit : LookupServerM Bool :=
  Program.act fun s => (s.1.quits.head, { s.1 with quits := s.1.quits.tail }, s.2)

/-- A round of the thread, which answers whatever it receives to whoever has sent it. -/
def receiveRound (_ : Unit) : LookupServerM (Unit ⊕ Unit) := do
  if ← quit then return .inr ()
  else
    let (server, _) ← Program.get
    let request ← (Datagrams.recvfrom server.socket (kDatagramBufferLength - 1)).within Prod.snd
      fun datagrams s => (s.1, datagrams)
    match request with
    | none => return .inl ()
    -- What was asked is not looked at.
    | some (_, clientAddr) => do
      let _ ← call fun server _ => .sendto server.socket server.address clientAddr
      return .inl ()

def receiveLookupRequests : LookupServerM Unit := Program.iterate receiveRound ()

/-- The constructor, the thread that it starts and the destructor waits for, and the end of the destructor. -/
def serve (port : UInt16) : LookupServerM Unit := do
  init port
  receiveLookupRequests
  let _ ← call fun server _ => .close server.socket
  return ()

end RegistryLookupServer

def kLookupPort : UInt16 := 10101

/-- The address of the registry, where one was given to the process. -/
structure RegistryLocation where
  useRegistryAddress : Bool
  registryAddress : Address

namespace RegistryServer

/-- The text of the address of the registry. -/
def addressString (location : RegistryLocation) : Program Datagrams Fault Bytes := do
  if location.useRegistryAddress then return location.registryAddress.tostring
  else
    -- The lookup lives as long as the question takes.
    let (address, _) ← RegistryLookup.lookup.owning (RegistryLookup.create kLookupPort)
    return address

/-- Find the address of the registry. -/
def getAddress (host : Host) (location : RegistryLocation) : Program Datagrams Fault Address := do
  let addressString ← addressString location
  Program.ofExcept ((Address.parse host addressString).mapError .runtimeError)

end RegistryServer

end Rcom
