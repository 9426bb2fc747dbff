import Librcom.Registry.ProxyLaws

/-! A proxy whose requests and replies are on their way: what its calls send, and what they end with. -/

namespace Rcom

open Effects
open Json (ascii Codec isBare)
open RegistryServer RegistryProxy

/-- A proxy, its system, and what passes over its link. -/
structure LinkedProxy where
  linux : Linux
  /-- The requests that were sent, in order. -/
  requests : List Bytes
  /-- The replies in order, with those that are still to be made. -/
  replies : Stream' Bytes
  /-- The number of replies that were received. -/
  received : Nat

namespace LinkedProxy

/-- A method of a proxy on a link. -/
abbrev LinkedProxyM := Program LinkedProxy Fault

/-- Call the system. -/
def onLinux {α : Type} (call : LinuxM α) : LinkedProxyM α :=
  call.within LinkedProxy.linux fun linux proxy => { proxy with linux := linux }

def websocketSend (message : Bytes) : LinkedProxyM Bool :=
  Program.act fun proxy => (true, { proxy with requests := proxy.requests ++ [message] })

/-- Receive the next reply, which is waited for if it was not made yet. -/
def websocketRecv (_timeout : ℚ) : LinkedProxyM (RecvStatus × Bytes) :=
  Program.act fun proxy =>
    ((.kRecvText, proxy.replies.get proxy.received), { proxy with received := proxy.received + 1 })

/-- The classes of a proxy on a link that passes every message in time. -/
def platform : ProxyPlatform LinkedProxy where
  rcomTime := onLinux Linux.rcomTime
  rcomSleep seconds := onLinux (Linux.rcomSleep seconds)
  websocketSend := websocketSend
  websocketRecv := websocketRecv

/-- A proxy that has not sent anything yet. -/
def begun (linux : Linux) (replies : Stream' Bytes) : LinkedProxy where
  linux := linux
  requests := []
  replies := replies
  received := 0

end LinkedProxy

/-- A call of a proxy. -/
inductive ProxyCall where
  | set (topic : Bytes) (address : Address)
  | remove (topic : Bytes)
  | get (topic : Bytes) (timeout : ℚ)

namespace ProxyCall

/-- The message that the call sends. -/
def request : ProxyCall → Bytes
  | set topic address => registerRequest topic address
  | remove topic => unregisterRequest topic
  | get topic _ => getRequest topic

/-- The topic is valid, and the address is set. -/
def IsValid : ProxyCall → Prop
  | set topic address => isValidTopic topic = true ∧ address.isSet = true
  | remove topic => isValidTopic topic = true
  | get topic _ => isValidTopic topic = true

/-- What the server is to make of the call. -/
def meant : ProxyCall → Effect
  | set topic address => .mapped topic address
  | remove topic => .removed topic
  | get topic _ => .lookedUp topic

variable (host : Host) (codec : Codec)

/-- Carry out the call. Only a lookup has a result. -/
def perform : ProxyCall → LinkedProxy.LinkedProxyM (Option Address)
  | set topic address => do
    LinkedProxy.platform.set codec topic address
    return none
  | remove topic => do
    LinkedProxy.platform.remove codec topic
    return none
  | get topic timeout => LinkedProxy.platform.get host codec topic timeout

/--
With the replies that were made, the call goes as far as to send a message behind a number of others.

What would be received later makes no difference to this.
-/
def Asks (linux : Linux) (replies : List Bytes) (count : Nat) (message : Bytes) (call : ProxyCall) :
    Prop :=
  ∃ fuel rest earlier, earlier.length = count ∧
    ∃ now ∈ (call.perform host codec).seen fuel (.begun linux (replies ++ₛ rest)),
      now.received ≤ replies.length ∧ now.requests = earlier ++ [message]

/-- The call ends with the replies that were made, of which it has received a number. -/
def Ends (linux : Linux) (replies : List Bytes) (count : Nat) (call : ProxyCall) : Prop :=
  count ≤ replies.length ∧ ∀ rest, ∃ after,
    (call.perform host codec).Leaves (.begun linux (replies ++ₛ rest)) after ∧ after.received = count

end ProxyCall

section Requests

variable {host : Host} {codec : Codec} {holds : List Bytes → Prop}

namespace LinkedProxy

/-- What holds of the requests that were sent. -/
def Sent (holds : List Bytes → Prop) (proxy : LinkedProxy) : Prop := holds proxy.requests

/-- The system does not change what was sent. -/
theorem onLinux_maintains {α : Type} (call : LinuxM α) :
    (onLinux call).Maintains (Sent holds) := by
  have apart : ∀ (linux : Linux) (proxy : LinkedProxy), proxy.Sent holds →
      { proxy with linux := linux }.Sent holds := fun _ _ sent => sent
  exact Program.maintains_within apart call

/-- To read the clock sends nothing. -/
theorem rcomTime_maintains : platform.rcomTime.Maintains (Sent holds) :=
  onLinux_maintains Linux.rcomTime

/-- To sleep sends nothing. -/
theorem rcomSleep_maintains (seconds : ℚ) :
    (platform.rcomSleep seconds).Maintains (Sent holds) :=
  onLinux_maintains (Linux.rcomSleep seconds)

/-- Receiving does not change what was sent. -/
theorem websocketRecv_maintains (timeout : ℚ) :
    (platform.websocketRecv timeout).Maintains (Sent holds) :=
  Program.maintains_act fun _ sent => sent

/-- What follows the request of a round of polling sends nothing. -/
theorem awaitAddress_maintains (startTime timeout : ℚ) :
    (platform.awaitAddress host codec startTime timeout).Maintains (Sent holds) := by
  refine (readAddress_maintains (websocketRecv_maintains timeout)).bind fun found => ?_
  refine rcomTime_maintains.bind fun now => ?_
  dsimp only
  split
  · exact (rcomSleep_maintains _).bind fun _ => Program.maintains_pure _
  · exact Program.maintains_pure _

end LinkedProxy

open LinkedProxy

/-- A call sends no message but its request, whatever the replies are. -/
theorem ProxyCall.perform_maintains (call : ProxyCall) :
    (call.perform host codec).Maintains
      (Sent fun requests => ∀ message ∈ requests, message = call.request) := by
  have sends {message : Bytes} (same : message = call.request) :
      (platform.sendRequest message).Maintains
        (Sent fun requests => ∀ message ∈ requests, message = call.request) := by
    refine sendRequest_maintains (Program.maintains_act fun proxy before message' member => ?_)
    -- A message is one of those before, or the one that is sent.
    rcases List.mem_append.mp member with old | new
    · exact before message' old
    · rw [List.mem_singleton.mp new, same]
  -- Reading the response sends nothing.
  have succeeds : (platform.responseAssertSuccess codec).Maintains
      (Sent fun requests => ∀ message ∈ requests, message = call.request) :=
    responseAssertSuccess_maintains (websocketRecv_maintains 10)
  cases call with
  | set topic address =>
    exact Program.Maintains.bind ((sends rfl).bind fun _ => succeeds) fun _ => Program.maintains_pure _
  | remove topic =>
    exact Program.Maintains.bind ((sends rfl).bind fun _ => succeeds) fun _ => Program.maintains_pure _
  | get topic timeout =>
    refine rcomTime_maintains.bind fun startTime => ?_
    exact Program.Maintains.iterate (fun _ => (sends rfl).bind fun _ =>
      awaitAddress_maintains startTime timeout) ()

end Requests

section Replies

variable {host : Host} {codec : Codec} {linux : Linux} {replies : Stream' Bytes} {topic : Bytes}
  {address : Address} {timeout : ℚ}

namespace LinkedProxy

/-- The proxy that has sent a request, and received the reply to it. -/
def replied (linux : Linux) (request : Bytes) (replies : Stream' Bytes) : LinkedProxy where
  linux := linux
  requests := [request]
  replies := replies
  received := 1

/-- A request is sent first. -/
theorem sends (linux : Linux) (request : Bytes) (replies : Stream' Bytes) :
    (platform.sendRequest request).Yields (.begun linux replies) ()
      { begun linux replies with requests := [request] } :=
  sendRequest_yields (Program.yields_act _ _)

/-- The first reply is received then. -/
theorem receives (linux : Linux) (request : Bytes) (replies : Stream' Bytes) (timeout : ℚ) :
    (platform.websocketRecv timeout).Yields { begun linux replies with requests := [request] }
      (.kRecvText, replies.head) (.replied linux request replies) :=
  Program.yields_act _ _

/-- Reading the clock takes one reading from the system. -/
theorem rcomTime_yields (proxy : LinkedProxy) :
    platform.rcomTime.Yields proxy proxy.linux.clock.head
      { proxy with linux := { proxy.linux with clock := proxy.linux.clock.tail } } := by
  have read : Linux.rcomTime.Yields proxy.linux proxy.linux.clock.head
      { proxy.linux with clock := proxy.linux.clock.tail } := Program.yields_act _ _
  exact read.within fun linux (proxy : LinkedProxy) => { proxy with linux := linux }

/-- A topic is set when the server replies with a success. -/
theorem set_yields (reads : codec.ReadsFlat) (success : replies.head = successReply) :
    (platform.set codec topic address).Yields (.begun linux replies) ()
      (.replied linux (registerRequest topic address) replies) :=
  (sends linux _ replies).bind (responseAssertSuccess_yields reads (success ▸ receives linux _ replies 10))

/-- A topic is removed when the server replies with a success. -/
theorem remove_yields (reads : codec.ReadsFlat) (success : replies.head = successReply) :
    (platform.remove codec topic).Yields (.begun linux replies) ()
      (.replied linux (unregisterRequest topic) replies) :=
  (sends linux _ replies).bind (responseAssertSuccess_yields reads (success ▸ receives linux _ replies 10))

/-- A topic is found when the server replies with its address. -/
theorem get_yields (reads : codec.ReadsFlat) (bare : isBare topic = true)
    (found : replies.head = addressReply topic address) :
    (platform.get host codec topic timeout).Yields (.begun linux replies) (some address)
      (.replied { linux with clock := linux.clock.tail.tail } (getRequest topic) replies) := by
  apply (rcomTime_yields (.begun linux replies)).bind
  apply Program.Yields.iterate_last
  -- The address is found in the first round, so that there is no other.
  apply (sends { linux with clock := linux.clock.tail } (getRequest topic) replies).bind
  exact awaitAddress_yields reads bare (found ▸ receives _ _ replies timeout) (rcomTime_yields _)

/-- A lookup throws when the server replies with a success, and without an address. -/
theorem get_throws (reads : codec.ReadsFlat) (success : replies.head = successReply) :
    (platform.get host codec topic timeout).Throws (.begun linux replies)
      (.runtimeError "RegistryProxy: invalid response")
      (.replied { linux with clock := linux.clock.tail } (getRequest topic) replies) := by
  apply (rcomTime_yields (.begun linux replies)).bind_throws
  apply Program.Throws.iterate
  apply (sends { linux with clock := linux.clock.tail } (getRequest topic) replies).bind_throws
  exact (readAddress_throws reads (success ▸ receives _ _ replies timeout)).bind _

/-- What follows a request ends the polling, whether the topic was found or not. -/
theorem awaitAddress_ensures (reads : codec.ReadsFlat) (bare : isBare topic = true) {registry : Registry}
    (answers : (Effect.lookedUp topic).Answers registry replies.head) (startTime : ℚ) :
    (platform.awaitAddress host codec startTime timeout).Ensures
      { begun linux replies with requests := [getRequest topic] }
      (fun turn _ => ∃ found, turn = .inr found) (fun _ _ => True) := by
  cases registered : registry.get topic with
  -- A registered topic ends the loop, and any other ends it by an exception.
  | some address =>
    simp only [Effect.Answers, registered] at answers
    have received := receives linux (getRequest topic) replies timeout
    rw [answers] at received
    exact (awaitAddress_yields reads bare received (rcomTime_yields _)).ensures ⟨_, rfl⟩
  | none =>
    simp only [Effect.Answers, registered] at answers
    have received := receives linux (getRequest topic) replies timeout
    rw [answers] at received
    exact ((readAddress_throws reads received).bind _).ensures trivial

/-- The request of a call is the one message that is sent. -/
theorem sendRequest_upholds (linux : Linux) (request : Bytes) (replies : Stream' Bytes)
    {fail : Fault → LinkedProxy → Prop} :
    (platform.sendRequest request).Upholds (Sent fun requests => requests = [] ∨ requests = [request])
      (.begun linux replies)
      (fun _ after => after = { begun linux replies with requests := [request] }) fail := by
  refine (Program.upholds_act (.inr rfl) ⟨rfl, rfl⟩ : (platform.websocketSend request).Upholds _ _
    (fun success after => success = true ∧ after = { begun linux replies with requests := [request] })
    fail).bind ?_
  rintro _ _ ⟨rfl, rfl⟩
  exact Program.upholds_pure rfl

end LinkedProxy

namespace ProxyCall

open LinkedProxy

variable {call : ProxyCall} {registry : Registry}

/-- A call that is answered sends its request once. -/
theorem perform_upholds (reads : codec.ReadsFlat) (valid : call.IsValid)
    (answers : call.meant.Answers registry replies.head) :
    (call.perform host codec).Upholds
      (Sent fun requests => requests = [] ∨ requests = [call.request]) (.begun linux replies)
      (fun _ _ => True) (fun _ _ => True) := by
  -- Both to set and to remove is to send a request, and to assert that it succeeded.
  have asserted (request : Bytes) : (do
      platform.sendRequest request
      platform.responseAssertSuccess codec).Upholds
        (Sent fun requests => requests = [] ∨ requests = [request]) (.begun linux replies)
        (fun _ _ => True) (fun _ _ => True) := by
    refine (sendRequest_upholds linux _ replies).bind ?_
    rintro _ _ rfl
    exact (responseAssertSuccess_maintains (websocketRecv_maintains 10) _ (.inr rfl)).mono
      (fun _ _ _ => trivial) fun _ _ _ => trivial
  cases call with
  | set topic address =>
    exact (asserted _).bind fun _ _ _ => Program.upholds_pure trivial
  | remove topic =>
    exact (asserted _).bind fun _ _ _ => Program.upholds_pure trivial
  | get topic timeout =>
    have clock : platform.rcomTime.Upholds
        (Sent fun requests => requests = [] ∨ requests = [getRequest topic]) (.begun linux replies)
        (fun _ _ => True) (fun _ _ => True) :=
      (rcomTime_maintains _ (.inl rfl)).mono (fun _ _ _ => trivial) fun _ _ _ => trivial
    refine clock.next (rcomTime_yields _) fun _ => ?_
    -- The first round is the last one, so that no other begins.
    refine Program.Upholds.iterate (fun _ now =>
      now = begun { linux with clock := linux.clock.tail } replies) rfl ?_
    rintro _ _ rfl
    refine (sendRequest_upholds _ (getRequest topic) replies).bind ?_
    rintro _ _ rfl
    refine ((awaitAddress_maintains linux.clock.head timeout _ (.inr rfl)).and
      (awaitAddress_ensures reads (isBare_of_isValidTopic valid) answers linux.clock.head)).mono ?_
      fun _ _ _ => trivial
    rintro turn _ ⟨-, found, rfl⟩
    trivial

/-- A call that is answered ends, and has received its one reply. -/
theorem perform_leaves (reads : codec.ReadsFlat) (valid : call.IsValid)
    (answers : call.meant.Answers registry replies.head) :
    ∃ after, (call.perform host codec).Leaves (.begun linux replies) after ∧ after.received = 1 := by
  cases call with
  | set topic address =>
    exact ⟨_, .inl ⟨_, (LinkedProxy.set_yields reads answers).bind (Program.yields_pure none _)⟩, rfl⟩
  | remove topic =>
    exact ⟨_, .inl ⟨_, (LinkedProxy.remove_yields reads answers).bind (Program.yields_pure none _)⟩, rfl⟩
  | get topic timeout =>
    -- A topic without an address makes the lookup throw at its first reply.
    cases registered : registry.get topic with
    | some address =>
      simp only [meant, Effect.Answers, registered] at answers
      exact ⟨_, .inl ⟨_, get_yields reads (isBare_of_isValidTopic valid) answers⟩, rfl⟩
    | none =>
      simp only [meant, Effect.Answers, registered] at answers
      exact ⟨_, .inr ⟨_, get_throws reads answers⟩, rfl⟩

/-- A call that was not answered yet asks for its request to be handled. -/
theorem asks_request (host : Host) (codec : Codec) (linux : Linux) (call : ProxyCall) :
    call.Asks host codec linux [] 0 call.request := by
  -- The request is sent by the very first step of sending.
  have sent (linux : Linux) (request : Bytes) (fuel : Nat) :
      { begun linux (Stream'.const []) with requests := [request] } ∈
        (platform.sendRequest request).seen fuel (.begun linux (Stream'.const [])) :=
    Program.seen_bind_first (List.mem_singleton.mpr rfl)
  cases call with
  | set topic address =>
    exact ⟨1, Stream'.const [], [], rfl, _,
      Program.seen_bind_first (Program.seen_bind_first (sent linux _ 1)), Nat.le_refl _, rfl⟩
  | remove topic =>
    exact ⟨1, Stream'.const [], [], rfl, _,
      Program.seen_bind_first (Program.seen_bind_first (sent linux _ 1)), Nat.le_refl _, rfl⟩
  | get topic timeout =>
    -- The clock is read before the first round.
    refine ⟨1, Stream'.const [], [], rfl,
      { begun { linux with clock := linux.clock.tail } (Stream'.const []) with
        requests := [getRequest topic] }, ?_, Nat.le_refl _, rfl⟩
    refine Program.seen_bind_second rfl (Program.seen_iterate_first ?_)
    exact Program.seen_bind_first (sent _ _ 1)

/-- What a call asks for is its request. -/
theorem Asks.request_eq {replies : List Bytes} {count : Nat} {message : Bytes}
    (asks : call.Asks host codec linux replies count message) : message = call.request := by
  obtain ⟨fuel, rest, earlier, -, now, seen, -, sent⟩ := asks
  have requests : now.Sent fun requests => ∀ message ∈ requests, message = call.request :=
    (call.perform_maintains (.begun linux (replies ++ₛ rest)) fun _ none => by cases none).through fuel
      now seen
  apply requests
  rw [sent]
  exact List.mem_append_right _ (List.mem_singleton.mpr rfl)

/-- A call that was answered asks for nothing more. -/
theorem not_asks_of_answered (reads : codec.ReadsFlat) (valid : call.IsValid) {reply message : Bytes}
    (answers : call.meant.Answers registry reply) : ¬ call.Asks host codec linux [reply] 1 message := by
  rintro ⟨fuel, rest, earlier, one, now, seen, -, sent⟩
  have first : call.meant.Answers registry ([reply] ++ₛ rest).head := answers
  have once : now.requests = [] ∨ now.requests = [call.request] :=
    (perform_upholds reads valid first).through fuel now seen
  have two : now.requests.length = 2 := by rw [sent, List.length_append, one]; rfl
  -- One reply is not followed by another request.
  rcases once with none | single
  · rw [none] at two
    cases two
  · rw [single] at two
    cases two

end ProxyCall

end Replies

end Rcom
