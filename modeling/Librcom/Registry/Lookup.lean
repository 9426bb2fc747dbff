import Librcom.Registry.ProxyLaws
import Mathlib.Tactic.Linarith

/-! Looking up a topic where sending, receiving and sleeping take time. -/

namespace Rcom

open Effects
open Json (Value Codec)

/-- What a proxy waits for: a reply, or the end of a sleep after it read the clock. -/
inductive WaitKind where
  | recv
  | sleep (reading : ℚ)
  deriving DecidableEq, Repr

/-- A call that may block: when it starts, and for how long it is told to wait. -/
structure Wait where
  kind : WaitKind
  start : ℚ
  duration : ℚ
  deriving DecidableEq, Repr

/-- A proxy for which time passes. -/
structure TimedProxy where
  /-- The system, whose clock has the instants of its readings and of the starts of waits. -/
  linux : Linux
  /-- The answers of `send` to come. -/
  sends : Stream' Bool
  /-- The answers of `recv` to come. -/
  replies : Stream' (RecvStatus × Bytes)
  /-- The last reading of the clock. -/
  reading : ℚ
  /-- The waits that were started, in order. -/
  waits : List Wait

namespace TimedProxy

/-- A method of a proxy for which time passes. -/
abbrev TimedProxyM := Program TimedProxy Fault

/-- Call the system. -/
def onLinux {α : Type} (call : LinuxM α) : TimedProxyM α :=
  call.within TimedProxy.linux fun linux state => { state with linux := linux }

def rcomTime : TimedProxyM ℚ := do
  let now ← onLinux Linux.rcomTime
  Program.update fun state => { state with reading := now }
  return now

/-- A wait starts, at the next instant. -/
def startWait (kind : WaitKind) (duration : ℚ) : TimedProxyM Unit :=
  Program.update fun state =>
    { state with
      linux := { state.linux with clock := state.linux.clock.tail }
      waits := state.waits ++
        [{ kind := kind, start := state.linux.clock.head, duration := duration }] }

def rcomSleep (seconds : ℚ) : TimedProxyM Unit := do
  let reading := (← Program.get).reading
  startWait (.sleep reading) seconds
  onLinux (Linux.rcomSleep seconds)

def websocketSend (_message : Bytes) : TimedProxyM Bool :=
  Program.act fun state => (state.sends.head, { state with sends := state.sends.tail })

def websocketRecv (timeout : ℚ) : TimedProxyM (RecvStatus × Bytes) := do
  startWait .recv timeout
  Program.act fun state => (state.replies.head, { state with replies := state.replies.tail })

/-- The classes of a proxy for which time passes. -/
def platform : ProxyPlatform TimedProxy where
  rcomTime := rcomTime
  rcomSleep := rcomSleep
  websocketSend := websocketSend
  websocketRecv := websocketRecv

/-- A proxy that has not waited for anything. -/
def create (linux : Linux) (sends : Stream' Bool) (replies : Stream' (RecvStatus × Bytes)) :
    TimedProxy where
  linux := linux
  sends := sends
  replies := replies
  reading := linux.clock.head
  waits := []

end TimedProxy

namespace Wait

/-- The wait is not longer than what is left of the time for a lookup when the wait starts. -/
def InTime (begun timeout : ℚ) (wait : Wait) : Prop :=
  wait.duration ≤ timeout - (wait.start - begun)

/-- No time has passed before a receive, and none that matters before a sleep. -/
def AtOnce (begun timeout : ℚ) (wait : Wait) : Prop :=
  match wait.kind with
  | .recv => wait.start ≤ begun
  | .sleep reading => wait.start ≤ reading ∨ wait.start + 1 / 2 ≤ begun + timeout

/-- What a lookup passes to the wait. -/
def Told (begun timeout : ℚ) (wait : Wait) : Prop :=
  match wait.kind with
  | .recv => wait.duration = timeout
  | .sleep reading => wait.duration = min (1 / 2) (timeout - (reading - begun))

/-- Whether a wait is in time is a matter of when it starts. -/
theorem Told.inTime_iff {begun timeout : ℚ} {wait : Wait} (told : wait.Told begun timeout) :
    wait.InTime begun timeout ↔ wait.AtOnce begun timeout := by
  obtain ⟨kind, start, duration⟩ := wait
  cases kind with
  | recv =>
    -- A receive may last the whole time, however much of it has passed.
    have whole : duration = timeout := told
    subst whole
    show duration ≤ duration - (start - begun) ↔ start ≤ begun
    constructor
    · intro inTime
      linarith
    · intro early
      linarith
  | sleep reading =>
    have rest : duration = min (1 / 2) (timeout - (reading - begun)) := told
    subst rest
    show min (1 / 2) (timeout - (reading - begun)) ≤ timeout - (start - begun) ↔
      start ≤ reading ∨ start + 1 / 2 ≤ begun + timeout
    -- The smaller of two is small enough if one of them is.
    rw [min_le_iff]
    constructor
    · rintro (half | left)
      · exact .inr (by linarith)
      · exact .inl (by linarith)
    · rintro (early | half)
      · exact .inr (by linarith)
      · exact .inl (by linarith)

end Wait

namespace TimedProxy

variable {begun timeout : ℚ} {host : Host} {codec : Codec}

/-- The waits of a lookup were told what it passes. -/
def AllTold (begun timeout : ℚ) (proxy : TimedProxy) : Prop :=
  ∀ wait ∈ proxy.waits, wait.Told begun timeout

/-- A wait that is told what it should be joins those that were. -/
theorem startWait_maintains {kind : WaitKind} {duration : ℚ}
    (told : ∀ start, Wait.Told begun timeout ⟨kind, start, duration⟩) :
    (startWait kind duration).Maintains (AllTold begun timeout) := by
  refine Program.maintains_update fun proxy earlier wait member => ?_
  -- A wait is an earlier one, or the one that starts here, whatever the instant.
  rcases List.mem_append.mp member with before | new
  · exact earlier wait before
  · obtain rfl := List.mem_singleton.mp new
    exact told _

/-- The system does not change what was waited for. -/
theorem onLinux_maintains {α : Type} (call : LinuxM α) :
    (onLinux call).Maintains (AllTold begun timeout) := by
  have apart : ∀ (linux : Linux) (state : TimedProxy), state.AllTold begun timeout →
      { state with linux := linux }.AllTold begun timeout := fun _ _ kept => kept
  exact Program.maintains_within apart call

/-- A receive is told the whole timeout of the lookup. -/
theorem websocketRecv_maintains : (websocketRecv timeout).Maintains (AllTold begun timeout) := by
  refine Program.Maintains.bind (startWait_maintains fun _ => rfl) fun _ => ?_
  exact Program.maintains_act fun _ earlier => earlier

/-- The reading that was taken is remembered. -/
theorem rcomTime_upholds {proxy : TimedProxy} (earlier : proxy.AllTold begun timeout) :
    rcomTime.Upholds (AllTold begun timeout) proxy
      (fun now proxy' => proxy'.AllTold begun timeout ∧ proxy'.reading = now)
      (fun _ proxy' => proxy'.AllTold begun timeout) := by
  -- The system gives the reading, and the proxy remembers it.
  refine (onLinux_maintains Linux.rcomTime proxy earlier).bind fun now between kept => ?_
  refine (Program.upholds_update kept trivial : Program.Upholds _ _ _ (fun _ _ => True) _).next
    (Program.yields_update _ between) fun _ => ?_
  exact Program.upholds_pure ⟨kept, rfl⟩

/-- A sleep is told the time that is left since the reading before it, or half a second. -/
theorem rcomSleep_upholds {proxy : TimedProxy} (earlier : proxy.AllTold begun timeout) :
    (rcomSleep (min (1 / 2) (timeout - (proxy.reading - begun)))).Upholds (AllTold begun timeout) proxy
      (fun _ proxy' => proxy'.AllTold begun timeout) (fun _ proxy' => proxy'.AllTold begun timeout) := by
  -- The reading that the sleep is noted with is the last one.
  refine Program.upholds_get_bind ?_
  have told : ∀ start, Wait.Told begun timeout
      ⟨.sleep proxy.reading, start, min (1 / 2) (timeout - (proxy.reading - begun))⟩ := fun _ => rfl
  refine (startWait_maintains told proxy earlier).bind fun _ between kept => ?_
  exact onLinux_maintains _ between kept

/-- Every wait of a lookup is told what a lookup passes, in each state on the way. -/
theorem get_tells (topic : Bytes) (proxy : TimedProxy) (fresh : proxy.waits = []) :
    (platform.get host codec topic timeout).Upholds (AllTold proxy.linux.clock.head timeout) proxy
      (fun _ proxy' => proxy'.AllTold proxy.linux.clock.head timeout)
      (fun _ proxy' => proxy'.AllTold proxy.linux.clock.head timeout) := by
  -- Before its first reading of the clock the lookup has not waited.
  have none : proxy.AllTold proxy.linux.clock.head timeout := by
    intro wait member
    rw [fresh] at member
    cases member
  have begins : rcomTime.Yields proxy proxy.linux.clock.head
      { proxy with
        linux := { proxy.linux with clock := proxy.linux.clock.tail }
        reading := proxy.linux.clock.head } := ⟨0, rfl⟩
  -- The first reading is the instant at which the lookup begins, and every round counts from there.
  refine (rcomTime_upholds none).next begins fun known => ?_
  refine Program.Upholds.iterate (fun _ => AllTold proxy.linux.clock.head timeout) known.1 ?_
  intro _ proxy' earlier
  -- Sending is no wait of those that are bounded.
  have sends : (platform.websocketSend (RegistryProxy.getRequest topic)).Maintains
      (AllTold proxy.linux.clock.head timeout) := Program.maintains_act fun _ told => told
  refine (sendRequest_maintains sends proxy' earlier).bind fun _ sent kept => ?_
  refine (readAddress_maintains websocketRecv_maintains sent kept).bind fun found received kept' => ?_
  -- The reading behind the reply is the one that the rest of the time is computed from.
  refine (rcomTime_upholds kept').bind ?_
  rintro now between ⟨kept'', rfl⟩
  dsimp only
  split
  · exact (rcomSleep_upholds kept'').bind fun _ _ slept => Program.upholds_pure slept
  · exact Program.upholds_pure kept''

/-- All waits that a lookup starts are of a kind. -/
def WaitsOnly (holds : Wait → Prop) (host : Host) (codec : Codec) (topic : Bytes) (timeout : ℚ)
    (proxy : TimedProxy) : Prop :=
  ∀ fuel, ∀ now ∈ (platform.get host codec topic timeout).seen fuel proxy, ∀ wait ∈ now.waits, holds wait

/-- The clock was read before the last wait had to be over, or at once when there was none. -/
def Punctual (begun : ℚ) (proxy : TimedProxy) : Prop :=
  proxy.reading ≤ proxy.waits.getLast?.elim begun fun wait => wait.start + wait.duration

/-- Where all waits are in time, the clock is not read after the end of the time for a lookup. -/
theorem Punctual.early {proxy : TimedProxy} (punctual : proxy.Punctual begun)
    (inTime : ∀ wait ∈ proxy.waits, wait.InTime begun timeout) :
    proxy.reading ≤ begun + max 0 timeout := by
  unfold Punctual at punctual
  -- The last instant is the one of the last wait, or the beginning when nothing was waited for.
  cases last : proxy.waits.getLast? with
  | none =>
    rw [last] at punctual
    exact punctual.trans (le_add_of_nonneg_right (le_max_left 0 timeout))
  | some wait =>
    rw [last] at punctual
    have read : proxy.reading ≤ wait.start + wait.duration := punctual
    have short : wait.duration ≤ timeout - (wait.start - begun) :=
      inTime wait (List.mem_of_getLast? last)
    have most := le_max_right 0 timeout
    linarith

/--
Looking up a topic respects its deadline if and only if no time passes before its waits.

A receive may last as long as the whole lookup, so that it is in time only at its very beginning.
A sleep may last for what was left at the last reading of the clock, or for half a second.
If no time passes before the waits and none of them lasts longer than it is told, the lookup ends in time.
-/
theorem get_respects_deadline_iff (host : Host) (codec : Codec) (topic : Bytes) (timeout : ℚ)
    (linux : Linux) (sends : Stream' Bool) (replies : Stream' (RecvStatus × Bytes)) :
    (WaitsOnly (Wait.InTime linux.clock.head timeout) host codec topic timeout
          (.create linux sends replies) ↔
        WaitsOnly (Wait.AtOnce linux.clock.head timeout) host codec topic timeout
          (.create linux sends replies)) ∧
      (WaitsOnly (Wait.AtOnce linux.clock.head timeout) host codec topic timeout
          (.create linux sends replies) →
        ∀ fuel, ∀ now ∈ (platform.get host codec topic timeout).seen fuel (.create linux sends replies),
          now.Punctual linux.clock.head → now.reading ≤ linux.clock.head + max 0 timeout) := by
  -- Every instant the loop sees knows the readings of the clock before it; the rest is about one wait.
  have told : ∀ fuel, ∀ now ∈ (platform.get host codec topic timeout).seen fuel
      (.create linux sends replies), now.AllTold linux.clock.head timeout :=
    (get_tells topic (.create linux sends replies) rfl).through
  refine ⟨⟨?_, ?_⟩, ?_⟩
  · intro inTime fuel now member wait started
    exact (told fuel now member wait started).inTime_iff.mp (inTime fuel now member wait started)
  · intro atOnce fuel now member wait started
    exact (told fuel now member wait started).inTime_iff.mpr (atOnce fuel now member wait started)
  · intro atOnce fuel now member punctual
    refine punctual.early fun wait started => ?_
    exact (told fuel now member wait started).inTime_iff.mpr (atOnce fuel now member wait started)

/-- Once its request is sent, a lookup starts to receive. -/
theorem get_receives (host : Host) (codec : Codec) (topic : Bytes) (timeout : ℚ) (linux : Linux)
    {sends : Stream' Bool} (replies : Stream' (RecvStatus × Bytes)) (sent : sends.head = true) :
    ∃ now ∈ (platform.get host codec topic timeout).seen 1 (.create linux sends replies),
      ⟨.recv, linux.clock.tail.head, timeout⟩ ∈ now.waits := by
  -- The first wait starts at the second instant, behind the reading of the clock.
  refine ⟨{ TimedProxy.create linux sends replies with
    linux := { linux with clock := linux.clock.tail.tail }
    sends := sends.tail
    waits := [⟨.recv, linux.clock.tail.head, timeout⟩] }, ?_, List.mem_singleton.mpr rfl⟩
  refine Program.seen_bind_second rfl (Program.seen_iterate_first ?_)
  have sends' : ∀ proxy : TimedProxy, proxy.sends.head = true →
      (platform.sendRequest (RegistryProxy.getRequest topic)).run 1 proxy =
        .done () { proxy with sends := proxy.sends.tail } := by
    intro proxy sent
    show (if proxy.sends.head then pure () else Program.raise _ : TimedProxyM Unit).run 1 _ = _
    rw [sent]
    rfl
  -- The wait is the first thing that is done when the request was sent.
  refine Program.seen_bind_second (sends' _ sent) ?_
  refine Program.seen_bind_first (Program.seen_bind_first (Program.seen_bind_first ?_))
  exact Program.seen_bind_first (List.mem_singleton.mpr rfl)

/-- A clock on which a quarter of a second passes after its first reading, and no more. -/
def slowClock : Stream' ℚ := fun i => if i = 0 then 0 else 1 / 4

/-- A quarter of a second passes while the request is sent, and no reply comes. -/
theorem get_overstays :
    Monotone slowClock ∧
      ¬ WaitsOnly (Wait.InTime slowClock.head 1) .dotted (Codec.flat (fun _ => []) [])
        (Json.ascii "alpha") 1
        (.create { Linux.steady with clock := slowClock } (Stream'.const true)
          (Stream'.const (.kRecvTimeOut, []))) := by
  constructor
  · -- The clock goes on once, and then stands still.
    intro i j before
    unfold slowClock
    split
    · split
      · exact le_refl _
      · norm_num
    · rw [if_neg (by omega)]
  · -- The first receive starts late and may last the whole second.
    intro inTime
    obtain ⟨now, member, started⟩ := get_receives .dotted (Codec.flat (fun _ => []) [])
      (Json.ascii "alpha") 1 { Linux.steady with clock := slowClock }
      (Stream'.const (.kRecvTimeOut, [])) (rfl : (Stream'.const true).head = true)
    have late := inTime 1 now member _ started
    have whole : (1 : ℚ) ≤ 1 - (1 / 4 - 0) := late
    norm_num at whole

end TimedProxy

end Rcom
