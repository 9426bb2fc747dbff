import Librcom.Rpc.Client

/-! What the calls of a client come to. -/

namespace Rcom

open Effects
open Json (ascii Value Codec)

namespace Link

variable {τ : Type} (serve : Server τ) (link : Link τ)

/-- The link after a message was passed on. -/
def delivered (message : LinkMessage) : Link τ :=
  { link with
    sends := link.sends.tail
    server := (serve link.server message).2
    pending := link.pending ++ (serve link.server message).1 }

/-- The link after the next reply was taken off. -/
def received (reply : LinkMessage) (rest : List LinkMessage) : Link τ :=
  { link with
    arrivals := link.arrivals.tail
    pending := rest
    recvStatus := statusOf reply.2 }

/-- The link after a call that met no reply. -/
def missed (miss : Miss) : Link τ :=
  { link with
    arrivals := link.arrivals.tail
    recvStatus := miss.status }

/-- A message that is taken is delivered to the server. -/
theorem send_yields (message : Bytes) (type : MessageType) (sent : link.sends.head = .ok true) :
    (send serve message type).Yields link true (link.delivered serve (message, type)) := by
  refine (Program.yields_get link).bind ((Program.yields_update _ link).next ?_)
  simp only [sent]
  exact (Program.yields_update _ _).next (Program.yields_pure true _)

/-- A message that is not passed on leaves the server as it was. -/
theorem send_ensures (message : Bytes) (type : MessageType) :
    (send serve message type).Ensures link
      (fun sent link' => sent = true → link.sends.head = .ok true ∧
        link' = link.delivered serve (message, type))
      (fun _ _ => True) := by
  -- The next outcome is taken off before the message is looked at.
  refine (Program.yields_get link).bind_ensures ((Program.yields_update _ link).bind_ensures ?_)
  generalize link.sends.head = outcome
  match outcome with
  | .error what => exact Program.ensures_raise trivial
  | .ok false => exact Program.ensures_pure (by simp)
  | .ok true =>
    apply (Program.yields_update _ _).bind_ensures
    exact Program.ensures_pure fun _ => ⟨rfl, rfl⟩

/-- A reply that arrives is received. -/
theorem recv_yields {reply : LinkMessage} {rest : List LinkMessage}
    (arrives : link.arrivals.head = .arrived) (waiting : link.pending = reply :: rest) :
    recv.Yields link (reply.1, .ok true) (link.received reply rest) := by
  refine (Program.yields_get link).bind ((Program.yields_update _ link).next ?_)
  obtain ⟨message, type⟩ := reply
  simp only [arrives, waiting]
  exact (Program.yields_update _ _).next (Program.yields_pure _ _)

/-- A reply that is missed stays on its way. -/
theorem recv_missed {miss : Miss} {leftover : Bytes}
    (misses : link.arrivals.head = .missed miss leftover) :
    recv.Yields link (leftover, .ok false) (link.missed miss) := by
  refine (Program.yields_get link).bind ((Program.yields_update _ link).next ?_)
  simp only [misses]
  exact (Program.yields_update _ _).next (Program.yields_pure _ _)

/-- A message that is obtained is the first of the replies, and otherwise the status says why not. -/
theorem recv_ensures : recv.Ensures link
    (fun outcome link' => match outcome.2 with
      | .ok true => ∃ reply rest, link.pending = reply :: rest ∧ outcome.1 = reply.1 ∧
          link' = link.received reply rest
      | .ok false => ∃ miss : Miss, link'.recvStatus = miss.status
      | .error _ => True)
    (fun _ _ => False) := by
  refine (Program.yields_get link).bind_ensures ((Program.yields_update _ link).bind_ensures ?_)
  -- The cases are those of the arrival: a reply, none that waits, a miss, and an exception.
  split
  · rename_i message type rest _ waiting
    apply (Program.yields_update _ _).bind_ensures
    exact Program.ensures_pure ⟨(message, type), rest, waiting, rfl, rfl⟩
  · apply (Program.yields_update _ _).bind_ensures
    exact Program.ensures_pure ⟨.timeOut, rfl⟩
  · rename_i miss leftover _
    apply (Program.yields_update _ _).bind_ensures
    exact Program.ensures_pure ⟨miss, rfl⟩
  · exact Program.ensures_pure trivial

end Link

namespace RcomClient

section Requests

variable {τ ρ : Type} {codec : Codec} {call : Calling τ ρ} {id method : Bytes} {params : Value}

/-- The members of a request, in the order of their keys. -/
theorem requestOf_eq (id method : Bytes) (params : Value) : requestOf id method params =
    .object [(kID, .string id), (kMethod, .string method), (kParams, params)] := by
  -- The keys are sorted by the library, and these are in that order already.
  have method_last : kID < kMethod := by decide
  have params_last : kMethod < kParams := by decide
  have params_behind : kID < kParams := by decide
  simp [requestOf, Value.insert_after method_last, Value.insert_after params_last,
    Value.insert_after params_behind]

/-- A request that can be serialised is put into the buffer. -/
theorem makeRequest_yields {serialised : Bytes}
    (dumped : codec.dump (requestOf id method params) = .ok serialised) :
    (makeRequest codec id method params).Yields call () { call with buffer := serialised } := by
  apply (Program.yields_update _ call).next
  apply (Program.yields_ofExcept dumped _).bind
  exact Program.yields_update _ _

/-- The request is in the buffer, and nothing else has changed. -/
theorem makeRequest_ensures : (makeRequest codec id method params).Ensures call
    (fun _ call' => ∃ serialised, codec.dump (requestOf id method params) = .ok serialised ∧
      call' = { call with buffer := serialised })
    (fun _ _ => True) := by
  cases dumped : codec.dump (requestOf id method params) with
  | ok serialised => exact (makeRequest_yields dumped).ensures ⟨serialised, rfl, rfl⟩
  | error what =>
    apply (Program.yields_update _ call).bind_ensures
    exact ((Program.throws_ofExcept dumped _).bind _).ensures trivial

end Requests

section Replies

variable {codec : Codec} {τ ρ : Type}

variable (codec) in
/-- The error that an error member holds, when both of its parts can be taken. -/
def errorOf (member : Value) : Option RPCError :=
  match errorCodeOf codec member, errorMessageOf member with
  | .ok code, .ok message => some { code := code, message := message }
  | _, _ => none

/-- The error of a response that does not parse, or whose error does not. -/
def parsingFailed : RPCError :=
  { code := RPCError.kParseError, message := ascii "RcomClient: Parsing response failed" }

variable (codec) in
/-- The error after a response was parsed. -/
def errorAfter (response : Value) (error : RPCError) : RPCError :=
  match response.member? kError with
  | none => error
  | some member => (errorOf codec member).getD parsingFailed

/-- The error is set, and nothing else. -/
theorem setErrorTo_yields (error : RPCError) (call : Calling τ ρ) :
    (setErrorTo error).Yields call () { call with error := error } :=
  Program.yields_update _ call

/-- The result is taken if the response has one. -/
theorem takeResult_yields (response : Value) (call : Calling τ Value) :
    (takeResult response).Yields call ()
      { call with result := (response.member? kResult).getD call.result } := by
  unfold takeResult Value.contains
  cases found : response.member? kResult with
  | none => exact Program.yields_pure () call
  | some result =>
    apply (Program.yields_ofExcept (Value.index_of_member found) call).bind
    exact Program.yields_update _ call

variable (codec) in
/-- An error member is taken whole, or an exception leaves it, maybe after its code was taken. -/
theorem takeError_member {response member : Value} (found : response.member? kError = some member)
    (call : Calling τ ρ) :
    match errorOf codec member with
    | some error => (takeError codec response).Yields call () { call with error := error }
    | none => ∃ what error, (takeError codec response).Throws call what { call with error := error } := by
  have taken : (Program.ofExcept (response.index kError) : CallM τ ρ Value).Yields call member call :=
    Program.yields_ofExcept (Value.index_of_member found) call
  unfold takeError errorOf Value.contains
  simp only [found, Option.isSome_some, if_true]
  cases coded : errorCodeOf codec member with
  | error what =>
    -- The code cannot be taken, so that the error is the one of the call.
    refine ⟨what, call.error, taken.bind_throws ?_⟩
    exact (Program.throws_ofExcept coded call).bind _
  | ok code =>
    cases told : errorMessageOf member with
    | error what =>
      -- The code has been taken when the message cannot be, and stays in the error.
      refine ⟨what, { call.error with code := code }, taken.bind_throws ?_⟩
      apply (Program.yields_ofExcept coded call).bind_throws
      apply (Program.yields_update _ call).bind_throws
      exact (Program.throws_ofExcept told _).bind _
    | ok message =>
      apply taken.bind
      apply (Program.yields_ofExcept coded call).bind
      apply (Program.yields_update _ call).next
      apply (Program.yields_ofExcept told _).bind
      exact Program.yields_update _ _

/-- A response that does not parse gives an error. -/
theorem parseResponse_fails {call : Calling τ Value} {what : Bytes}
    (unparsed : codec.parse call.buffer = .error what) :
    (parseResponse codec).Yields call () { call with error := parsingFailed } := by
  -- An exception of the parser leaves the call as it was.
  have threw : (Program.ofExcept (codec.parse call.buffer)).Throws call what call :=
    Program.throws_ofExcept unparsed call
  exact ((Program.yields_get call).bind_throws (threw.bind _)).attempt
    (setErrorTo_yields parsingFailed call)

/-- A response that parses gives its result, when it has one, and its error. -/
theorem parseResponse_yields {call : Calling τ Value} {response : Value}
    (parsed : codec.parse call.buffer = .ok response) :
    (parseResponse codec).Yields call ()
      { call with
        result := (response.member? kResult).getD call.result
        error := errorAfter codec response call.error } := by
  -- The result is kept even when the error that follows it cannot be taken.
  -- The handler of the exception overwrites what `takeError` left of an error.
  have began := takeResult_yields response call
  unfold errorAfter
  cases found : response.member? kError with
  | none =>
    apply Program.Yields.attempt
    apply (Program.yields_get call).bind
    apply (Program.yields_ofExcept parsed call).bind
    apply began.next
    simp only [takeError, Value.contains, found]
    exact Program.yields_pure () _
  | some member =>
    have taken := takeError_member codec found
      { call with result := (response.member? kResult).getD call.result }
    cases error : errorOf codec member with
    | some error =>
      rw [error] at taken
      simp only [error, Option.getD_some]
      apply Program.Yields.attempt
      apply (Program.yields_get call).bind
      apply (Program.yields_ofExcept parsed call).bind
      exact began.next taken
    | none =>
      rw [error] at taken
      simp only [error, Option.getD_none]
      obtain ⟨what, _, threw⟩ := taken
      apply Program.Throws.attempt
      · apply (Program.yields_get call).bind_throws
        apply (Program.yields_ofExcept parsed call).bind_throws
        exact began.bind_throws threw
      · exact setErrorTo_yields parsingFailed _

end Replies

section Transport

variable {τ ρ : Type} (serve : Server τ)

/-- A request that is taken is delivered to the server. -/
theorem sendRequest_yields (type : MessageType) (call : Calling τ ρ)
    (sent : call.link.sends.head = .ok true) :
    (sendRequest serve type).Yields call true
      { call with link := call.link.delivered serve (call.buffer, type) } := by
  apply (Program.yields_get call).bind
  apply ((Link.send_yields serve call.link call.buffer type sent).within _).bind
  exact Program.yields_pure true _

/-- A request that was not passed on leaves an error. -/
theorem sendRequest_ensures (type : MessageType) (call : Calling τ ρ) :
    (sendRequest serve type).Ensures call
      (fun sent call' =>
        if sent then call' = { call with link := call.link.delivered serve (call.buffer, type) }
        else call'.error.code ≠ 0)
      (fun _ _ => True) := by
  apply (Program.yields_get call).bind_ensures
  apply ((Link.send_ensures serve call.link call.buffer type).within _).seq
  · -- An exception of the link says nothing here: the caller turns it into an error.
    intro _ _ _
    trivial
  · rintro sent call' ⟨link', passed, rfl⟩
    cases sent with
    | true =>
      apply Program.ensures_pure
      rw [if_pos rfl, (passed rfl).2]
    | false =>
      have failed : RPCError.kSendError ≠ 0 := by decide
      apply (setErrorTo_yields _ _).bind_ensures
      exact Program.ensures_pure failed

/-- A reply that arrives is written where it belongs. -/
theorem receiveResponse_yields (write : Bytes → Calling τ ρ → Calling τ ρ) (call : Calling τ ρ)
    {reply : LinkMessage} {rest : List LinkMessage} (arrives : call.link.arrivals.head = .arrived)
    (waiting : call.link.pending = reply :: rest) :
    (receiveResponse write).Yields call true
      (write reply.1 { call with link := call.link.received reply rest }) := by
  apply ((Link.recv_yields call.link arrives waiting).within _).bind
  apply (Program.yields_update _ _).next
  exact Program.yields_pure true _

/-- The error of a call that missed its reply. -/
def missError : Miss → RPCError
  | .error => { code := RPCError.kReceiveError, message := ascii "RcomClient: Receive failed" }
  | .closed => { code := RPCError.kLinkClosed, message := ascii "RcomClient: Link closed" }
  | .timeOut => { code := RPCError.kReceiveTimeout, message := ascii "RcomClient: Timeout" }

/-- To miss a reply is an error. -/
theorem missError_code (miss : Miss) : (missError miss).code ≠ 0 := by
  cases miss <;> decide

/-- The error that is set tells how the reply was missed. -/
theorem setError_yields (miss : Miss) {call : Calling τ ρ}
    (missed : call.link.recvStatus = miss.status) :
    setError.Yields call () { call with error := missError miss } := by
  apply (Program.yields_get call).bind
  rw [missed]
  cases miss with
  | error => exact setErrorTo_yields _ call
  | closed => exact setErrorTo_yields _ call
  | timeOut => exact setErrorTo_yields _ call

/-- Where the reply is missed, the call fails with the error that tells how. -/
theorem receiveResponse_missed (write : Bytes → Calling τ ρ → Calling τ ρ) (call : Calling τ ρ)
    {miss : Miss} {leftover : Bytes} (misses : call.link.arrivals.head = .missed miss leftover)
    (keeps : (write leftover { call with link := call.link.missed miss }).link =
      call.link.missed miss) :
    (receiveResponse write).Yields call false
      { write leftover { call with link := call.link.missed miss } with
        error := missError miss } := by
  have status := congrArg Link.recvStatus keeps
  -- The status of the link tells the error, and writing the buffer leaves the link alone.
  apply ((Link.recv_missed call.link misses).within _).bind
  apply (Program.yields_update _ _).next
  apply (Program.yields_pure _ _).bind
  exact (setError_yields miss status).next (Program.yields_pure false _)

/-- A response that was not obtained leaves an error. -/
theorem receiveResponse_ensures (write : Bytes → Calling τ ρ → Calling τ ρ) (call : Calling τ ρ)
    (keeps : ∀ contents call, (write contents call).link = call.link) :
    (receiveResponse write).Ensures call
      (fun obtained call' =>
        if obtained then ∃ reply rest, call.link.pending = reply :: rest ∧
          call' = write reply.1 { call with link := call.link.received reply rest }
        else call'.error.code ≠ 0)
      (fun _ _ => True) := by
  apply ((Link.recv_ensures call.link).within _).seq
  · intro _ _ _
    trivial
  · rintro ⟨contents, obtained⟩ call' ⟨link', met, rfl⟩
    apply (Program.yields_update _ _).bind_ensures
    -- The link threw, brought a message, or told why it brought none.
    match obtained with
    | .error what => exact (Program.throws_raise what _).bind _ |>.ensures trivial
    | .ok true =>
      obtain ⟨reply, rest, waiting, rfl, rfl⟩ := met
      apply (Program.yields_pure _ _).bind_ensures
      exact Program.ensures_pure ⟨reply, rest, waiting, rfl⟩
    | .ok false =>
      obtain ⟨miss, status⟩ := met
      apply (Program.yields_pure _ _).bind_ensures
      have same := (congrArg Link.recvStatus (keeps contents { call with link := link' })).trans status
      apply (setError_yields miss same).bind_ensures
      exact Program.ensures_pure (missError_code miss)

end Transport

section Execution

variable {τ : Type} {codec : Codec} (serve : Server τ) {id method : Bytes} {params : Value}

/-- A text call makes of the first reply on its way what parsing makes of it. -/
theorem executeJson_replied {call call' : Calling τ Value} {serialised : Bytes}
    {reply : LinkMessage} {rest : List LinkMessage}
    (dumped : codec.dump (requestOf id method params) = .ok serialised)
    (sent : call.link.sends.head = .ok true) (arrives : call.link.arrivals.head = .arrived)
    (waiting : (call.link.delivered serve (serialised, .kTextMessage)).pending = reply :: rest)
    (parsed : (parseResponse codec).Yields
      { call with
        link := (call.link.delivered serve (serialised, .kTextMessage)).received reply rest
        buffer := reply.1 } () call') :
    (executeJson codec serve id method params).Yields call () call' := by
  have passed := sendRequest_yields serve .kTextMessage { call with buffer := serialised } sent
  have obtained := receiveResponse_yields (fun contents call => { call with buffer := contents })
    { call with
      link := call.link.delivered serve (serialised, .kTextMessage), buffer := serialised }
    arrives waiting
  -- The three steps of the source: make the request, send it, read the reply.
  apply Program.Yields.attempt
  apply (makeRequest_yields dumped).next
  apply passed.bind
  rw [if_pos rfl]
  apply obtained.bind
  rw [if_pos rfl]
  exact parsed

/-- A text call takes its result and its error from the first reply on its way. -/
theorem executeJson_yields {call : Calling τ Value} {serialised : Bytes} {reply : LinkMessage}
    {rest : List LinkMessage} {response : Value}
    (dumped : codec.dump (requestOf id method params) = .ok serialised)
    (sent : call.link.sends.head = .ok true) (arrives : call.link.arrivals.head = .arrived)
    (waiting : (call.link.delivered serve (serialised, .kTextMessage)).pending = reply :: rest)
    (parsed : codec.parse reply.1 = .ok response) :
    (executeJson codec serve id method params).Yields call ()
      { link := (call.link.delivered serve (serialised, .kTextMessage)).received reply rest
        buffer := reply.1
        result := (response.member? kResult).getD call.result
        error := errorAfter codec response call.error } :=
  executeJson_replied serve dumped sent arrives waiting (parseResponse_yields parsed)

/-- A binary call takes its bytes from the first reply on its way, and leaves the error. -/
theorem executeBinary_yields {call : Calling τ Bytes} {serialised : Bytes} {reply : LinkMessage}
    {rest : List LinkMessage}
    (dumped : codec.dump (requestOf id method params) = .ok serialised)
    (sent : call.link.sends.head = .ok true) (arrives : call.link.arrivals.head = .arrived)
    (waiting : (call.link.delivered serve (serialised, .kBinaryMessage)).pending = reply :: rest) :
    (executeBinary codec serve id method params).Yields call ()
      { link := (call.link.delivered serve (serialised, .kBinaryMessage)).received reply rest
        buffer := serialised
        result := reply.1
        error := call.error } := by
  have passed := sendRequest_yields serve .kBinaryMessage { call with buffer := serialised } sent
  have obtained := receiveResponse_yields (fun contents call => { call with result := contents })
    { call with
      link := call.link.delivered serve (serialised, .kBinaryMessage), buffer := serialised }
    arrives waiting
  -- No handler is entered; the reply becomes the result as it is.
  apply Program.Yields.attempt
  apply (makeRequest_yields dumped).next
  apply passed.bind
  rw [if_pos rfl]
  apply obtained.bind
  exact Program.yields_pure () _

/-- A binary call that misses its reply leaves the reply on its way. -/
theorem executeBinary_missed {call : Calling τ Bytes} {serialised leftover : Bytes} {miss : Miss}
    (dumped : codec.dump (requestOf id method params) = .ok serialised)
    (sent : call.link.sends.head = .ok true)
    (misses : call.link.arrivals.head = .missed miss leftover) :
    (executeBinary codec serve id method params).Yields call ()
      { link := (call.link.delivered serve (serialised, .kBinaryMessage)).missed miss
        buffer := serialised
        result := leftover
        error := missError miss } := by
  have passed := sendRequest_yields serve .kBinaryMessage { call with buffer := serialised } sent
  have empty := receiveResponse_missed (fun contents call => { call with result := contents })
    { call with
      link := call.link.delivered serve (serialised, .kBinaryMessage), buffer := serialised }
    misses rfl
  -- Nothing arrives, so the reason becomes the error and the result keeps what the link left.
  apply Program.Yields.attempt
  apply (makeRequest_yields dumped).next
  apply passed.bind
  rw [if_pos rfl]
  apply empty.bind
  exact Program.yields_pure () _

/-- On an idle link, the reply to a message is the first on its way. -/
theorem delivered_pending {link : Link τ} {message reply : LinkMessage} (idle : link.pending = [])
    (answered : (serve link.server message).1 = [reply]) :
    (link.delivered serve message).pending = [reply] := by
  rw [Link.delivered, idle, answered, List.nil_append]

end Execution

end RcomClient

end Rcom
