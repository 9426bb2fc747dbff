import Librcom.WebSocket.Input

/-! What closing a connection and passing bytes to a socket do to the state. -/

namespace Rcom

open Effects

/-- The same state after some clock readings, some sleeps, and some looks at the other end. -/
def WebSocket.pass (ws : WebSocket) (ticks naps looks : Nat) : WebSocket :=
  { ws with
    linux :=
      { ws.linux with
        clock := ws.linux.clock.drop ticks
        sleeps := ws.linux.sleeps.drop naps }
    socket := { ws.socket with endpoints := ws.socket.endpoints.drop looks } }

/-- The same state with the socket closed. -/
def WebSocket.closed (ws : WebSocket) : WebSocket :=
  { ws with socket := ws.socket.close }

/-- Every sleep to come succeeds. -/
def WebSocket.SleepsSucceed (ws : WebSocket) : Prop :=
  ∀ i, ws.linux.sleeps.get i = 0

namespace WebSocket

variable (ws : WebSocket) (ticks naps looks : Nat)

/-- To pass over nothing changes nothing. -/
@[simp] theorem pass_zero : ws.pass 0 0 0 = ws := rfl

/-- To pass over some and then more is to pass over all of it. -/
@[simp] theorem pass_pass (ticks' naps' looks' : Nat) :
    (ws.pass ticks naps looks).pass ticks' naps' looks' =
      ws.pass (ticks + ticks') (naps + naps') (looks + looks') := by
  simp [pass, Stream'.drop_drop]

/-- The system may go on while nothing is passed to the peer. -/
@[simp] theorem pass_passed : (ws.pass ticks naps looks).socket.passed = ws.socket.passed := rfl

/-- The system may go on while the connection stays as it is. -/
@[simp] theorem pass_connected :
    (ws.pass ticks naps looks).socket.connected = ws.socket.connected := rfl

/-- To close the connection passes nothing. -/
@[simp] theorem closed_passed : ws.closed.socket.passed = ws.socket.passed := rfl

/-- A connection that is closed is not connected. -/
@[simp] theorem closed_connected : ws.closed.socket.connected = false := rfl

/-- To close the connection leaves the system. -/
@[simp] theorem closed_linux : ws.closed.linux = ws.linux := rfl

/-- Sleeps go on to succeed when the system goes on. -/
theorem SleepsSucceed.pass {ws : WebSocket} (sleeps : ws.SleepsSucceed) (ticks naps looks : Nat) :
    (ws.pass ticks naps looks).SleepsSucceed := by
  intro i
  simpa [WebSocket.pass] using sleeps (naps + i)

end WebSocket

/-- Reading the clock lets one reading pass. -/
theorem rcomTime_yields (ws : WebSocket) :
    rcomTime.Yields ws ws.linux.clock.head (ws.pass 1 0 0) :=
  ⟨0, rfl⟩

/-- A look at the peer gives the next answer. -/
theorem isEndpointConnected_yields (ws : WebSocket) :
    (onSocket Socket.isEndpointConnected).Yields ws ws.socket.endpoints.head (ws.pass 0 0 1) :=
  Program.yields_act _ ws

/-- A sleep either passes or throws because it did not succeed. -/
theorem rcomSleep_ensures (ws : WebSocket) (seconds : ℚ) :
    (rcomSleep seconds).Ensures ws (fun _ ws' => ws' = ws.pass 0 1 0)
      (fun _ ws' => ws' = ws.pass 0 1 0 ∧ ¬ ws.SleepsSucceed) := by
  refine ((Linux.rcomSleep_achieves seconds ws.linux).toEnsures.within
    fun linux ws => { ws with linux := linux }).mono ?_ ?_
  · rintro _ _ ⟨_, rfl, rfl⟩
    rfl
  · rintro _ _ ⟨_, ⟨rfl, failed⟩, rfl⟩
    exact ⟨rfl, fun sleeps => failed (sleeps 0)⟩

/-- The state differs only by time that passed. -/
def WebSocket.Waited (ws ws' : WebSocket) : Prop :=
  ∃ ticks naps looks, ws' = ws.pass ticks naps looks

/-- Waiting for the other end only lets time pass, and throws only from a failed sleep. -/
theorem waitForEndpoint_ensures (ws : WebSocket) (startTime timeout : ℚ) :
    (waitForEndpoint startTime timeout).Ensures ws (fun _ ws' => ws.Waited ws')
      (fun _ ws' => ws.Waited ws' ∧ ¬ ws.SleepsSucceed) := by
  -- Time that passed in earlier rounds and in this one adds up.
  refine Program.Ensures.iterate (fun _ ws' => ws.Waited ws') ⟨0, 0, 0, rfl⟩ ?_
  rintro timedOut _ ⟨ticks, naps, looks, rfl⟩
  refine (isEndpointConnected_yields _).bind_ensures ?_
  split
  · refine (rcomTime_yields _).bind_ensures ?_
    dsimp only
    split
    · exact Program.ensures_pure ⟨ticks + 1, naps, looks + 1, by simp⟩
    · refine (rcomSleep_ensures _ _).seq ?_ ?_
      · -- A sleep that failed here is one of those that had to succeed.
        rintro _ _ ⟨rfl, failed⟩
        refine ⟨⟨ticks + 1, naps + 1, looks + 1, by simp⟩, fun sleeps => failed ?_⟩
        simpa using sleeps.pass _ _ _
      · rintro _ _ rfl
        exact Program.ensures_pure ⟨ticks + 1, naps + 1, looks + 1, by simp⟩
  · exact Program.ensures_pure ⟨ticks, naps, looks + 1, by simp⟩

/-- Closing a connection lets time pass and disconnects, and throws only from a failed sleep. -/
theorem closeConnection_ensures (side : Side) (ws : WebSocket) :
    (closeConnection side).Ensures ws
      (fun _ ws' => ∃ waited, ws.Waited waited ∧ ws' = waited.closed)
      (fun _ ws' => ws.Waited ws' ∧ ¬ ws.SleepsSucceed) := by
  cases side with
  | server => exact Program.ensures_update ⟨ws, ⟨0, 0, 0, rfl⟩, rfl⟩
  | client =>
    refine (rcomTime_yields ws).bind_ensures ((waitForEndpoint_ensures _ _ _).seq ?_ ?_)
    · -- The wait threw, and the connection stays as it is.
      rintro _ _ ⟨⟨ticks, naps, looks, rfl⟩, failed⟩
      refine ⟨⟨1 + ticks, naps, looks, by simp⟩, fun sleeps => failed (sleeps.pass 1 0 0)⟩
    · rintro _ _ ⟨ticks, naps, looks, rfl⟩
      exact Program.ensures_update ⟨_, ⟨1 + ticks, naps, looks, by simp⟩, rfl⟩

/-- The state after bytes were passed to the socket. -/
def WebSocket.offered (call : SocketCall) (ws : WebSocket) : WebSocket :=
  { ws with socket := (ws.socket.send call).2 }

/-- What is offered is passed if the socket is connected. -/
theorem WebSocket.offered_passed (call : SocketCall) (ws : WebSocket) :
    (ws.offered call).socket.passed =
      ws.socket.passed ++ if ws.socket.connected then [call] else [] := by
  unfold offered Socket.send
  split <;> simp_all

/-- To offer bytes leaves the connection. -/
@[simp] theorem WebSocket.offered_connected (call : SocketCall) (ws : WebSocket) :
    (ws.offered call).socket.connected = ws.socket.connected := by
  unfold offered Socket.send
  split <;> rfl

/-- A connected socket remembers the call, whatever becomes of it. -/
theorem WebSocket.offered_of_connected (call : SocketCall) {ws : WebSocket}
    (connected : ws.socket.connected = true) :
    ws.offered call =
      { ws with
        socket :=
          { ws.socket with
            passed := ws.socket.passed ++ [call]
            sends := ws.socket.sends.tail } } := by
  simp [offered, Socket.send, connected]

/-- To offer bytes leaves the system. -/
theorem WebSocket.offered_linux (call : SocketCall) (ws : WebSocket) :
    (ws.offered call).linux = ws.linux := rfl

/-- Bytes are passed and taken, or the socket ends closed. -/
theorem socketSend_ensures (side : Side) (call : SocketCall) (ws : WebSocket) :
    (socketSend side call).Ensures ws
      (fun ok ws' =>
        (ok = true ∧ ws.socket.connected = true ∧ ws' = ws.offered call) ∨
        (ok = false ∧ ∃ waited, (ws.offered call).Waited waited ∧ ws' = waited.closed))
      (fun _ ws' => (ws.offered call).Waited ws' ∧ ¬ ws.SleepsSucceed) := by
  have passed : (onSocket (Socket.send call)).Yields ws (ws.socket.send call).1 (ws.offered call) :=
    Program.yields_act _ ws
  refine passed.bind_ensures ?_
  split
  · rename_i taken
    -- Only a connected socket takes bytes.
    have connected : ws.socket.connected = true := by
      unfold Socket.send at taken
      split at taken
      · assumption
      · simp at taken
    exact Program.ensures_pure (.inl ⟨rfl, connected, rfl⟩)
  · refine (closeConnection_ensures side _).seq ?_ ?_
    · exact fun _ _ failed => failed
    · rintro _ _ ⟨waited, passing, rfl⟩
      exact Program.ensures_pure (.inr ⟨rfl, waited, passing, rfl⟩)

/-- A connected socket whose next send succeeds takes the bytes. -/
theorem socketSend_yields (side : Side) (call : SocketCall) (ws : WebSocket)
    (connected : ws.socket.connected = true) (succeeds : ws.socket.sends.head = true) :
    (socketSend side call).Yields ws true (ws.offered call) := by
  have passed : (onSocket (Socket.send call)).Yields ws (ws.socket.send call).1 (ws.offered call) :=
    Program.yields_act _ ws
  refine passed.bind ?_
  have taken : (ws.socket.send call).1 = true := by
    simp [Socket.send, connected, succeeds]
  rw [if_pos taken]
  exact Program.yields_pure _ _

end Rcom
