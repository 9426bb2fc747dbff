import Librcom.Effects.Passage
import Librcom.Rpc.Stub
import Librcom.Rpc.Transparency
import Librcom.Rpc.WellFormed

/-! What the calls of stubs do to the server, whatever becomes of the messages. -/

namespace Rcom

open Effects
open Json (ascii Value Codec isUtf8)

section Receiving

variable {τ : Type} {codec : Codec} {world : τ}

/-- The server is in this state. -/
abbrev Calling.HasServer {ρ : Type} (world : τ) (call : Calling τ ρ) : Prop :=
  call.link.server = world

/-- To receive a reply does nothing to the server. -/
theorem recv_maintains : (Link.recv : Program (Link τ) Bytes _).Maintains (·.server = world) := by
  apply Program.maintains_compositional.get.bind
  intro link
  refine (Program.maintains_update ?_).bind fun _ => ?_
  · exact fun _ now => now
  -- Whatever arrives, only the side of the client changes.
  split
  · refine (Program.maintains_update ?_).bind fun _ => Program.maintains_pure _
    exact fun _ now => now
  · refine (Program.maintains_update ?_).bind fun _ => Program.maintains_pure _
    exact fun _ now => now
  · refine (Program.maintains_update ?_).bind fun _ => Program.maintains_pure _
    exact fun _ now => now
  · exact Program.maintains_pure _

variable {ρ : Type}

/-- To set an error leaves the server. -/
theorem setErrorTo_maintains (error : RPCError) :
    (RcomClient.setErrorTo error : CallM τ ρ Unit).Maintains (Calling.HasServer world) :=
  Program.maintains_update fun _ now => now

/-- So does the error that tells how a reply was missed. -/
theorem setError_maintains : (RcomClient.setError : CallM τ ρ Unit).Maintains
    (Calling.HasServer world) := by
  apply Program.maintains_compositional.get.bind
  intro call
  split <;> exact setErrorTo_maintains _

/-- To receive a reply leaves the server, wherever the reply is written. -/
theorem receiveResponse_maintains {write : Bytes → Calling τ ρ → Calling τ ρ}
    (keeps : ∀ contents call, (write contents call).link = call.link) :
    (RcomClient.receiveResponse write).Maintains (Calling.HasServer world) := by
  apply (recv_maintains.within fun _ _ => rfl).bind
  rintro ⟨contents, obtained⟩
  -- The contents are written to a buffer, which is no part of the link.
  refine (Program.maintains_update fun call now => ?_).bind fun _ => ?_
  · exact (congrArg Link.server (keeps contents call)).trans now
  apply (Program.maintains_ofExcept obtained).bind
  intro obtained
  split
  · exact Program.maintains_pure _
  · exact setError_maintains.bind fun _ => Program.maintains_pure _

/-- To take a result leaves the server. -/
theorem takeResult_maintains (response : Value) :
    (RcomClient.takeResult response).Maintains (Calling.HasServer (ρ := Value) world) := by
  unfold RcomClient.takeResult
  split
  · exact (Program.maintains_ofExcept _).bind fun _ => Program.maintains_update fun _ now => now
  · exact Program.maintains_pure _

/-- To take an error leaves the server. -/
theorem takeError_maintains (response : Value) :
    (RcomClient.takeError codec response : CallM τ ρ Unit).Maintains (Calling.HasServer world) := by
  unfold RcomClient.takeError
  split
  · -- The code and the message are taken one after the other.
    apply (Program.maintains_ofExcept _).bind
    intro member
    apply (Program.maintains_ofExcept _).bind
    intro code
    refine (Program.maintains_update ?_).bind fun _ => ?_
    · exact fun _ now => now
    exact (Program.maintains_ofExcept _).bind fun _ => Program.maintains_update fun _ now => now
  · exact Program.maintains_pure _

/-- To parse a response leaves the server. -/
theorem parseResponse_maintains : (RcomClient.parseResponse codec).Maintains
    (Calling.HasServer world) := by
  refine Program.Maintains.attempt ?_ fun _ => setErrorTo_maintains _
  apply Program.maintains_compositional.get.bind
  intro call
  apply (Program.maintains_ofExcept _).bind
  intro response
  exact (takeResult_maintains response).bind fun _ => takeError_maintains response

end Receiving

section Serving

variable {τ : Type} {codec : Codec} (serve : Server τ) {id method : Bytes} {params : Value}

/-- A message that is not passed on does nothing to the server. -/
theorem send_serves (link : Link τ) (message : Bytes) (type : MessageType) :
    (Link.send serve message type).Ensures link
      (fun sent link' => link'.server =
        if sent then (serve link.server (message, type)).2 else link.server)
      fun _ link' => link'.server = link.server := by
  refine (Program.yields_get link).bind_ensures ((Program.yields_update _ link).bind_ensures ?_)
  generalize link.sends.head = outcome
  -- A link that throws or refuses has not called the server.
  match outcome with
  | .error what => exact Program.ensures_raise rfl
  | .ok false => exact Program.ensures_pure rfl
  | .ok true =>
    apply (Program.yields_update _ _).bind_ensures
    exact Program.ensures_pure rfl

/-- A request that is not passed on leaves an error. -/
theorem sendRequest_serves {ρ : Type} (call : Calling τ ρ) (type : MessageType) :
    (RcomClient.sendRequest serve type).Ensures call
      (fun sent call' => if sent then call'.HasServer (serve call.link.server (call.buffer, type)).2
        else call'.HasServer call.link.server ∧ call'.error.code ≠ 0)
      fun _ call' => call'.HasServer call.link.server := by
  apply (Program.yields_get call).bind_ensures
  apply ((send_serves serve call.link call.buffer type).within _).seq
  · rintro _ _ ⟨link', kept, rfl⟩
    exact kept
  · rintro sent _ ⟨link', served, rfl⟩
    -- Only a request that was passed on has reached the server.
    cases sent with
    | true => exact Program.ensures_pure served
    | false =>
      have failed : RPCError.kSendError ≠ 0 := by decide
      apply (RcomClient.setErrorTo_yields _ _).bind_ensures
      exact Program.ensures_pure ⟨served, failed⟩

/-- The server handled the request of a call. -/
def Served (codec : Codec) (id method : Bytes) (params : Value) (before after : τ) : Prop :=
  ∃ request, codec.dump (RcomClient.requestOf id method params) = .ok request ∧
    after = (serve before (request, .kTextMessage)).2

/-- A call reaches the server at most once, and does so unless it ends with an error. -/
theorem executeJson_serves (call : Calling τ Value) :
    (RcomClient.executeJson codec serve id method params).Ensures call
      (fun _ call' => Served serve codec id method params call.link.server call'.link.server ∨
        call'.HasServer call.link.server ∧ call'.error.code ≠ 0)
      fun _ _ => False := by
  have tried : (RcomClient.tryExecuteJson codec serve id method params).Ensures call
      (fun _ call' => Served serve codec id method params call.link.server call'.link.server ∨
        call'.HasServer call.link.server ∧ call'.error.code ≠ 0)
      (fun _ call' => Served serve codec id method params call.link.server call'.link.server ∨
        call'.HasServer call.link.server) := by
    cases dumped : codec.dump (RcomClient.requestOf id method params) with
    | error what =>
      -- A request that cannot be serialised is not sent.
      have threw : (RcomClient.makeRequest codec id method params).Throws call what
          { call with buffer := [] } :=
        (Program.yields_update _ call).bind_throws ((Program.throws_ofExcept dumped _).bind _)
      exact (threw.bind _).ensures (.inr rfl)
    | ok request =>
      apply (RcomClient.makeRequest_yields dumped).bind_ensures
      apply (sendRequest_serves serve _ .kTextMessage).seq
      · exact fun _ _ kept => .inr kept
      · intro sent call₁ passed
        cases sent with
        | false => exact Program.ensures_pure (.inr passed)
        | true =>
          have served : Served serve codec id method params call.link.server call₁.link.server :=
            ⟨request, dumped, passed⟩
          -- The server has handled the request, and what the client receives changes nothing there.
          have tail : (do if ← RcomClient.receiveResponse fun contents call =>
                { call with buffer := contents } then RcomClient.parseResponse codec :
              CallM τ Value Unit).Maintains (Calling.HasServer call₁.link.server) := by
            refine (receiveResponse_maintains ?_).bind fun obtained => ?_
            · exact fun _ _ => rfl
            split
            · exact parseResponse_maintains
            · exact Program.maintains_pure _
          refine (tail call₁ rfl).toEnsures.mono ?_ ?_
          · exact fun _ call' kept => .inl (kept ▸ served)
          · exact fun _ call' kept => .inl (kept ▸ served)
  apply tried.attempt
  · -- The handler around the call notes an error, and leaves the server as it is.
    intro what call' reached
    have failed : RPCError.kInternalError ≠ 0 := by decide
    refine (RcomClient.setErrorTo_yields _ call').ensures ?_
    exact reached.imp_right fun kept => ⟨kept, failed⟩

end Serving

section Ending

variable {τ ρ : Type} {codec : Codec} {serve : Server τ}

/-- To send over a link takes no loop. -/
theorem linkSend_straight (message : Bytes) (type : MessageType) :
    (Link.send serve message type).Straight := by
  apply Program.straight_get.bind
  intro link
  apply (Program.straight_update _).bind
  intro _
  split
  · exact Program.straight_raise _
  · exact Program.straight_pure _
  · exact (Program.straight_update _).bind fun _ => Program.straight_pure _

/-- To receive over a link takes no loop. -/
theorem linkRecv_straight : (Link.recv : Program (Link τ) Bytes _).Straight := by
  apply Program.straight_get.bind
  intro link
  apply (Program.straight_update _).bind
  intro _
  split
  · exact (Program.straight_update _).bind fun _ => Program.straight_pure _
  · exact (Program.straight_update _).bind fun _ => Program.straight_pure _
  · exact (Program.straight_update _).bind fun _ => Program.straight_pure _
  · exact Program.straight_pure _

/-- To send a request takes no loop. -/
theorem sendRequest_straight (type : MessageType) :
    (RcomClient.sendRequest serve type : CallM τ ρ Bool).Straight := by
  apply Program.straight_get.bind
  intro call
  apply ((linkSend_straight call.buffer type).within _ _).bind
  intro sent
  split
  · exact Program.straight_pure _
  · exact (Program.straight_update _).bind fun _ => Program.straight_pure _

/-- To receive a response takes no loop. -/
theorem receiveResponse_straight (write : Bytes → Calling τ ρ → Calling τ ρ) :
    (RcomClient.receiveResponse write).Straight := by
  apply (linkRecv_straight.within _ _).bind
  rintro ⟨contents, obtained⟩
  apply (Program.straight_update _).bind
  intro _
  apply (Program.straight_ofExcept _).bind
  intro obtained
  split
  · exact Program.straight_pure _
  · -- The status decides on the error, which is set in each case.
    apply Program.Straight.bind
    · apply Program.straight_get.bind
      intro call
      split <;> exact Program.straight_update _
    · exact fun _ => Program.straight_pure _

/-- To parse a response takes no loop. -/
theorem parseResponse_straight : (RcomClient.parseResponse codec : CallM τ Value Unit).Straight := by
  refine Program.Straight.attempt ?_ fun _ => Program.straight_update _
  apply Program.straight_get.bind
  intro call
  apply (Program.straight_ofExcept _).bind
  intro response
  apply Program.Straight.bind
  · unfold RcomClient.takeResult
    split
    · exact (Program.straight_ofExcept _).bind fun _ => Program.straight_update _
    · exact Program.straight_pure _
  · intro _
    unfold RcomClient.takeError
    split
    · -- The code and the message are taken one after the other.
      apply (Program.straight_ofExcept _).bind
      intro member
      apply (Program.straight_ofExcept _).bind
      intro code
      apply (Program.straight_update _).bind
      intro _
      exact (Program.straight_ofExcept _).bind fun _ => Program.straight_update _
    · exact Program.straight_pure _

/-- A call has no loop, so that it ends whatever happens on the link. -/
theorem executeJson_straight (id method : Bytes) (params : Value) :
    (RcomClient.executeJson codec serve id method params).Straight := by
  refine Program.Straight.attempt ?_ fun _ => Program.straight_update _
  apply Program.Straight.bind
  · apply (Program.straight_update _).bind
    intro _
    exact (Program.straight_ofExcept _).bind fun _ => Program.straight_update _
  · intro _
    apply (sendRequest_straight _).bind
    intro sent
    -- A request that was not sent, and a reply that was not received, end the call.
    split
    · apply (receiveResponse_straight _).bind
      intro obtained
      split
      · exact parseResponse_straight
      · exact Program.straight_pure _
    · exact Program.straight_pure _

end Ending

end Rcom
