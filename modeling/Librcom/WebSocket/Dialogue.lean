import Librcom.WebSocket.Exchange
import Librcom.WebSocket.LinkStatus

/-! What the calls of an application say to it, and how that agrees with what went over the wire. -/

namespace Rcom

open Effects

/-- The message that a receive call returns, if its status says that there is one. -/
def delivered (status : RecvStatus) (message : Bytes) : List Message :=
  match status with
  | .kRecvText => [(.kTextMessage, message)]
  | .kRecvBinary => [(.kBinaryMessage, message)]
  | .kRecvTimeOut | .kRecvError | .kRecvClosed => []

/-- A message is delivered under the status of its type. -/
@[simp] theorem delivered_status (message : Message) :
    delivered message.1.status message.2 = [message] := by
  obtain ⟨type, bytes⟩ := message
  cases type <;> rfl

section Receiving

/-- A call in progress has taken and given what it has, and has no message yet. -/
def Underway (side : Side) (start ws : WebSocket) : Prop :=
  ∃ taken given, Exchanged side start taken given ws ∧ messagesGiven given = [] ∧
    (Unfragmented taken → start.Fresh → messagesTaken taken = [])

/-- A receive call took the message that it returns, if messages come in one piece. -/
def Taken (side : Side) (start : WebSocket) (status : RecvStatus) (ws' : WebSocket) : Prop :=
  ∃ taken given, Exchanged side start taken given ws' ∧ messagesGiven given = [] ∧
    (Unfragmented taken → start.Fresh →
      messagesTaken taken = delivered status ws'.message)

variable {side : Side} {start ws ws' : WebSocket}

/-- A receive call that is under way has taken its time. -/
theorem Underway.later (underway : Underway side start ws) : start.Later ws := by
  obtain ⟨taken, given, exchanged, _⟩ := underway
  exact exchanged.later

/-- A receive call stays under way while nothing is taken or given. -/
theorem Underway.before (underway : Underway side start ws) (quiet : Exchanged side ws [] [] ws') :
    Underway side start ws' := by
  obtain ⟨taken, given, exchanged, silent, none⟩ := underway
  exact ⟨taken, given, exchanged.before quiet, silent, none⟩

/-- A frame that does not complete a message leaves the call without one. -/
theorem Underway.handled {f : Frame} {rest : Bytes} {reads : Nat} (underway : Underway side start ws)
    (connected : ws.socket.connected = true) (accepted : f.Accepted side)
    (incoming : ws.socket.incoming = f.encode ++ rest)
    (handled : Handled side f (ws.received f rest reads) ws')
    (incomplete : completes ws'.frameHeader = false) : Underway side start ws' := by
  obtain ⟨taken, given, exchanged, silent, none⟩ := underway
  obtain ⟨given', answered, silent'⟩ := handled.exchanged connected accepted incoming
  rw [handled.header, show (ws.received f rest reads).frameHeader = f.header from rfl,
    completes_header] at incomplete
  refine ⟨taken ++ [f], given ++ given', exchanged.trans answered, by simp [silent, silent'], ?_⟩
  intro whole fresh
  -- A data frame that is not final would be a fragment.
  have control : f.isData = false := by
    by_contra data
    have isData : f.isData = true := by simpa using data
    rw [isData, whole f (by simp) isData] at incomplete
    cases incomplete
  have nothing : messageIn f.opcode f.payload = Option.none := by
    unfold Frame.isData at control
    cases opcode : f.opcode <;> simp [opcode, messageIn] at control ⊢
  -- Without a data frame no message was taken.
  rw [messagesTaken_append, none (fun g member => whole g (by simp [member])) fresh]
  simp [messagesTaken, nothing]

/-- The final frame of a message that was not begun before has all of the message. -/
theorem Underway.completed {f : Frame} {rest : Bytes} {reads : Nat} (underway : Underway side start ws)
    (connected : ws.socket.connected = true) (accepted : f.Accepted side)
    (incoming : ws.socket.incoming = f.encode ++ rest)
    (handled : Handled side f (ws.received f rest reads) ws')
    (complete : completes ws'.frameHeader = true) : Taken side start ws'.messageStatus ws' := by
  obtain ⟨taken, given, exchanged, silent, none⟩ := underway
  obtain ⟨given', answered, silent'⟩ := handled.exchanged connected accepted incoming
  rw [handled.header, show (ws.received f rest reads).frameHeader = f.header from rfl,
    completes_header, Bool.and_eq_true] at complete
  obtain ⟨data, fin⟩ := complete
  -- The frame is one of data, and is taken into the message.
  obtain ⟨takes, rfl⟩ := (handled_data data).mp handled
  refine ⟨taken ++ [f], given ++ given', exchanged.trans answered, by simp [silent, silent'], ?_⟩
  intro whole fresh
  have before : Unfragmented taken := fun g member => whole g (by simp [member])
  -- No message was in progress, so that the frame is none that continues one.
  have flag := ((takesData_received ws rest reads).mp takes).1
  rw [exchanged.continuing before fresh connected] at flag
  have first : f.opcode ≠ .kContinutationOpcode := by simpa using flag.symm
  have message := dataHandled_message ws rest reads data
  rw [messagesTaken_append, none before fresh, List.nil_append, message, WebSocket.messageStatus,
    dataHandled_isText]
  unfold Frame.isData at data
  cases opcode : f.opcode <;> simp [opcode] at data first <;>
    simp [messagesTaken, messageIn, opcode, WebSocket.textWith, WebSocket.partFor, delivered]

/-- A call fails before it is passed anything more, or because a sleep failed. -/
def Fails (side : Side) (start : WebSocket) (e : Fault) (ws' : WebSocket) : Prop :=
  (e.IsRecvError ∧ ∃ mid, Underway side start mid ∧ mid.Idle ws') ∨ ¬ start.SleepsSucceed

/-- A round of a receive call takes a frame at most. -/
theorem tryRecvRound_takes (startTime timeout remainingTime : ℚ) (underway : Underway side start ws) :
    (tryRecvRound side startTime timeout remainingTime).Ensures ws
      (Program.Turn (fun _ ws' => Underway side start ws') (Taken side start)) (Fails side start) := by
  have looked := underway.before (.of_looked side ws)
  -- Where the call ends without a message, nothing was delivered.
  have untaken {status : RecvStatus} {ws' : WebSocket} (none : ∀ message, delivered status message = [])
      (underway : Underway side start ws') : Taken side start status ws' := by
    obtain ⟨taken, given, exchanged, silent, nothing⟩ := underway
    exact ⟨taken, given, exchanged, silent, fun whole fresh => by rw [nothing whole fresh, none]⟩
  refine (tryRecvRound_ensures side startTime timeout
    (handleOneMessage_ensures side ws.looked)).mono ?_ ?_
  · intro turn ws' round
    cases round with
    | expired _ => exact untaken (fun _ => rfl) underway
    | nothing _ => exact looked.before (.of_pass side _ 1 0 0)
    -- The frame that was handled decides, and a Close frame ends the call.
    | complete handled complete =>
      obtain ⟨connected, f, rest, reads, accepted, incoming, handled⟩ := handled
      exact looked.completed connected accepted incoming handled complete
    | closed handled _ incomplete =>
      obtain ⟨connected, f, rest, reads, accepted, incoming, handled⟩ := handled
      exact untaken (fun _ => rfl) (looked.handled connected accepted incoming handled incomplete)
    | more _ handled _ incomplete =>
      obtain ⟨connected, f, rest, reads, accepted, incoming, handled⟩ := handled
      exact (looked.handled connected accepted incoming handled incomplete).before
        (.of_pass side _ 1 0 0)
  · -- An exception of the round is one of the waiting, of the handling, or of the sleep.
    rintro e ws' ((⟨isRecvError, idle⟩ | failed) | ⟨isRecvError, rfl⟩)
    · exact .inl ⟨isRecvError, ws.looked, looked, idle⟩
    · exact .inr fun sleeps => failed (looked.later.sleeps sleeps)
    · exact .inl ⟨isRecvError, ws.looked, looked, .refl _⟩

/-- A receive call took what it returns, whatever else it took and gave. -/
theorem recv_takes (side : Side) (buffer : Bytes) (timeout : ℚ) {ws : WebSocket}
    (sleeps : ws.SleepsSucceed) :
    (recv side buffer timeout).Ensures ws
      (fun result ws' => ∃ taken given, Exchanged side ws taken given ws' ∧ messagesGiven given = [] ∧
        (Unfragmented taken → ws.Fresh →
          messagesTaken taken = delivered result.1 result.2))
      (fun _ _ => False) := by
  -- Clearing the buffer and reading the clock are no exchange.
  have began : Exchanged side ws [] [] ws.started := .of_kept rfl rfl rfl rfl ⟨1, 0, rfl, rfl⟩
  have rounds : (Program.iterate (tryRecvRound side ws.linux.clock.head timeout) timeout).Ensures
      ws.started (Taken side ws) (Fails side ws) :=
    Program.Ensures.iterate (fun _ ws' => Underway side ws ws') ⟨[], [], began, rfl, fun _ _ => rfl⟩
      fun remainingTime _ underway => tryRecvRound_takes _ timeout remainingTime underway
  refine (recv_ensures rounds ?_ buffer).mono ?_ (fun _ _ failed => failed)
  · -- After an exception for the peer the link is closed, and the call returns no message.
    intro e ws' failed
    obtain ⟨isRecvError, mid, underway, idle⟩ := failed.resolve_right (not_not_intro sleeps)
    cases e with
    | runtimeError _ => exact isRecvError.elim
    | recvError _ code =>
      have later := underway.later.trans idle.later
      refine (closeWithHandshake_ensures side code (later.sleeps sleeps)).bind ?_
      intro _ ws'' closing
      obtain ⟨taken, given, exchanged, silent, none⟩ := underway
      obtain ⟨given', closed, silent'⟩ := closing.exchanged idle
      refine Program.ensures_pure ⟨taken, given ++ given', ?_, by simp [silent, silent'], none⟩
      simpa using exchanged.trans closed
  · rintro ⟨status, message⟩ ws' ⟨rfl, taken⟩
    exact taken

end Receiving

/-- What a call says to the application about messages. -/
inductive Report where
  | sent (message : Message)
  | unsent (message : Message)
  | received (message : Message)
  | quiet

/-- The messages that were sent, in order. -/
def sentIn (reports : List Report) : List Message :=
  reports.filterMap fun
    | .sent message => some message
    | _ => none

/-- The messages whose send calls were made, in order. -/
def offeredIn (reports : List Report) : List Message :=
  reports.filterMap fun
    | .sent message => some message
    | .unsent message => some message
    | _ => none

/-- The messages that were received, in order. -/
def receivedIn (reports : List Report) : List Message :=
  reports.filterMap fun
    | .received message => some message
    | _ => none

/-- One call of an application, however it ends, and what it says. -/
inductive Says (side : Side) (ws ws' : WebSocket) : Report → Prop
  | sent (message : Message) : (send side message.2 message.1).Yields ws true ws' →
    Says side ws ws' (.sent message)
  | refused (message : Message) : (send side message.2 message.1).Yields ws false ws' →
    Says side ws ws' (.unsent message)
  | failed (message : Message) (e : Fault) : (send side message.2 message.1).Throws ws e ws' →
    Says side ws ws' (.unsent message)
  | received (buffer : Bytes) (timeout : ℚ) (message : Message) :
    (recv side buffer timeout).Yields ws (message.1.status, message.2) ws' →
    Says side ws ws' (.received message)
  | nothing (buffer : Bytes) (timeout : ℚ) (status : RecvStatus) (message : Bytes) :
    (recv side buffer timeout).Yields ws (status, message) ws' → delivered status message = [] →
    Says side ws ws' .quiet
  | threw (buffer : Bytes) (timeout : ℚ) (e : Fault) : (recv side buffer timeout).Throws ws e ws' →
    Says side ws ws' .quiet
  | closed (code : CloseCode) : (close side code).Leaves ws ws' → Says side ws ws' .quiet

/-- The calls of an application on one end of a link, in any order and any number. -/
inductive Dialogue (side : Side) : WebSocket → List Report → WebSocket → Prop
  | stop (ws : WebSocket) : Dialogue side ws [] ws
  | call {ws ws' ws'' : WebSocket} {report : Report} {reports : List Report} :
    Says side ws ws' report → Dialogue side ws' reports ws'' → Dialogue side ws (report :: reports) ws''

/-- The reports agree with what was taken and given: a message at the end may be given in part. -/
structure Tells (reports : List Report) (ws : WebSocket) (taken : List Frame) (given : List Emission)
    (ws' : WebSocket) : Prop where
  sends : ∃ late, messagesGiven given = sentIn reports ++ late ∧ late.length ≤ 1 ∧
    (∀ message ∈ late, .unsent message ∈ reports) ∧ (ws'.socket.connected = true → late = []) ∧
    (sentIn reports ++ late).Sublist (offeredIn reports)
  receives : Unfragmented taken → ws.Fresh → messagesTaken taken = receivedIn reports

/-- One call says what it took and gave. -/
theorem Says.exchanged {side : Side} {ws ws' : WebSocket} {report : Report}
    (said : Says side ws ws' report) (sleeps : ws.SleepsSucceed) :
    ∃ taken given, Exchanged side ws taken given ws' ∧ Tells [report] ws taken given ws' := by
  -- A send call that fails has given nothing, or it has closed the link.
  have unsent {message : Message} {given : List Emission}
      (gives : messagesGiven given = [] ∨
        messagesGiven given = [message] ∧ ws'.socket.connected = false) :
      Tells [.unsent message] ws [] given ws' := by
    refine ⟨?_, fun _ _ => rfl⟩
    rcases gives with none | ⟨one, closed⟩
    · exact ⟨[], by simpa [sentIn] using none, by simp, by simp, fun _ => rfl, List.nil_sublist _⟩
    · exact ⟨[message], by simpa [sentIn] using one, by simp, by simp,
        fun still => by simp [closed] at still, by simp [sentIn, offeredIn]⟩
  -- A call that gives and takes no message tells nothing.
  have quiet {taken : List Frame} {given : List Emission} (silent : messagesGiven given = [])
      (none : Unfragmented taken → ws.Fresh → messagesTaken taken = []) :
      Tells [.quiet] ws taken given ws' :=
    ⟨⟨[], by simpa [sentIn] using silent, by simp, by simp, fun _ => rfl, List.nil_sublist _⟩, none⟩
  cases said with
  | sent message sent =>
    obtain ⟨given, exchanged, all, _⟩ := (send_exchanges side message sleeps).yields sent
    exact ⟨[], given, exchanged,
      ⟨[], by simpa [sentIn] using all rfl, by simp, by simp, fun _ => rfl,
        by simp [sentIn, offeredIn]⟩, fun _ _ => rfl⟩
  | refused message refused =>
    obtain ⟨given, exchanged, _, gives⟩ := (send_exchanges side message sleeps).yields refused
    exact ⟨[], given, exchanged, unsent gives⟩
  | failed message e threw => exact ((send_exchanges side message sleeps).throws threw).elim
  -- A receive call has taken what it returns, and given no message.
  | received buffer timeout message received =>
    obtain ⟨taken, given, exchanged, silent, whole⟩ :=
      (recv_takes side buffer timeout sleeps).yields received
    refine ⟨taken, given, exchanged, ⟨[], by simpa [sentIn] using silent, by simp, by simp,
      fun _ => rfl, List.nil_sublist _⟩, fun unfragmented fresh => ?_⟩
    rw [whole unfragmented fresh, delivered_status]
    rfl
  | nothing buffer timeout status message received none =>
    obtain ⟨taken, given, exchanged, silent, whole⟩ :=
      (recv_takes side buffer timeout sleeps).yields received
    exact ⟨taken, given, exchanged, quiet silent fun unfragmented fresh =>
      (whole unfragmented fresh).trans none⟩
  | threw buffer timeout e threw => exact ((recv_takes side buffer timeout sleeps).throws threw).elim
  | closed code left =>
    have closing : Closing side code ws ws' :=
      ((closeWithHandshake_ensures side code sleeps).mono (fun _ _ closing => closing)
        (fun _ _ failed => failed.elim)).leaves left
    obtain ⟨given, exchanged, silent⟩ := closing.exchanged (.refl ws)
    exact ⟨[], given, exchanged, quiet silent fun _ _ => rfl⟩

/-- The reports of a dialogue agree with what was taken and given in it. -/
theorem Dialogue.exchanged {side : Side} {ws ws' : WebSocket} {reports : List Report}
    (dialogue : Dialogue side ws reports ws') (sleeps : ws.SleepsSucceed) :
    ∃ taken given, Exchanged side ws taken given ws' ∧ Tells reports ws taken given ws' := by
  induction dialogue with
  | stop ws =>
    exact ⟨[], [], .refl side ws, ⟨[], rfl, by simp, by simp, fun _ => rfl, List.nil_sublist _⟩,
      fun _ _ => rfl⟩
  | @call ws mid ws' report reports said rest ih =>
    obtain ⟨taken, given, exchanged, ⟨late, sends, few, unsent, whole, ordered⟩, receives⟩ :=
      said.exchanged sleeps
    obtain ⟨taken', given', exchanged', ⟨late', sends', few', unsent', whole', ordered'⟩, receives'⟩ :=
      ih (exchanged.later.sleeps sleeps)
    have sentIn_cons : sentIn (report :: reports) = sentIn [report] ++ sentIn reports := by
      rw [← List.singleton_append, sentIn, List.filterMap_append]
      rfl
    have offeredIn_cons : offeredIn (report :: reports) = offeredIn [report] ++ offeredIn reports := by
      rw [← List.singleton_append, offeredIn, List.filterMap_append]
      rfl
    have receivedIn_cons : receivedIn (report :: reports) = receivedIn [report] ++ receivedIn reports := by
      rw [← List.singleton_append, receivedIn, List.filterMap_append]
      rfl
    refine ⟨taken ++ taken', given ++ given', exchanged.trans exchanged', ?_, ?_⟩
    · cases connected : mid.socket.connected with
      | true =>
        -- All that was given so far is whole, so that only the calls behind may leave a part.
        rw [whole connected, List.append_nil] at sends
        rw [whole connected, List.append_nil] at ordered
        refine ⟨late', ?_, few', fun message member => List.mem_cons_of_mem _ (unsent' message member),
          whole', ?_⟩
        · rw [messagesGiven_append, sends, sends', sentIn_cons, List.append_assoc]
        · rw [sentIn_cons, offeredIn_cons, List.append_assoc]
          exact ordered.append ordered'
      | false =>
        -- The link is closed, and nothing is given or sent any more.
        obtain ⟨closed, _, rfl⟩ := exchanged'.refused connected
        have none : sentIn reports = [] ∧ late' = [] := by simpa [messagesGiven] using sends'.symm
        refine ⟨late, ?_, few, fun message member => ?_, fun still => by simp [closed] at still, ?_⟩
        · rw [List.append_nil, sends, sentIn_cons, none.1, List.append_nil]
        · rw [List.mem_singleton.mp (unsent message member)]
          exact List.mem_cons_self
        · rw [sentIn_cons, offeredIn_cons, none.1, List.append_nil]
          exact ordered.trans (List.sublist_append_left _ _)
    · intro unfragmented fresh
      have first : Unfragmented taken := fun f member => unfragmented f (by simp [member])
      have second : Unfragmented taken' := fun f member => unfragmented f (by simp [member])
      rw [messagesTaken_append, receives first fresh, receives' second (exchanged.continuing first fresh),
        receivedIn_cons]

end Rcom
