import Librcom.Effects.Conduct
import Librcom.WebSocket.Steps

/-! The codes that a receive call closes the link with, whatever it comes across. -/

namespace Rcom

open Effects

/-- The system throws on a link what it throws by itself. -/
theorem onLinux_refuses {α : Type} {call : LinuxM α} (refuses : call.ThrowsOnly Fault.Refuses) :
    (onLinux call).ThrowsOnly Fault.Refuses :=
  refuses.within _ _

/-- To read the clock throws nothing but refusals. -/
theorem rcomTime_refuses : rcomTime.ThrowsOnly Fault.Refuses :=
  onLinux_refuses (Program.throwsOnly_act _)

/-- To close the connection throws nothing but refusals. -/
theorem closeConnection_refuses (side : Side) :
    (closeConnection side).ThrowsOnly Fault.Refuses := by
  have closes : socketClose.ThrowsOnly Fault.Refuses := Program.throwsOnly_update _
  -- The wait for the peer to close its end can fail, but only with an exception of another kind.
  have sleeps (seconds : ℚ) : (rcomSleep seconds).ThrowsOnly Fault.Refuses := by
    refine onLinux_refuses ((Program.throwsOnly_act _).bind fun r => ?_)
    split
    · split
      · exact Program.throwsOnly_raise trivial
      · exact Program.throwsOnly_raise trivial
    · exact Program.throwsOnly_pure _
  cases side with
  | server => exact closes
  | client =>
    -- A client first waits until the peer has closed, or until half a second has passed.
    refine rcomTime_refuses.bind fun startTime => ?_
    refine Program.ThrowsOnly.bind ?_ fun _ => closes
    refine Program.ThrowsOnly.iterate (fun timedOut => ?_) false
    refine (Program.throwsOnly_act _).bind fun stillOpen => ?_
    split
    · refine rcomTime_refuses.bind fun now => ?_
      dsimp only
      split
      · exact Program.throwsOnly_pure _
      · exact (sleeps _).bind fun _ => Program.throwsOnly_pure _
    · exact Program.throwsOnly_pure _

/-- No step throws anything but an exception for the peer with one of the three codes. -/
theorem refuses_steps (side : Side) :
    StepsHave side fun {_} method => method.ThrowsOnly Fault.Refuses where
  toCompositional := Program.throwsOnly_compositional
  aside := fun _ => Program.throwsOnly_update _
  time := rcomTime_refuses
  waits := fun _ => Program.throwsOnly_act _
  asks := fun _ => Program.throwsOnly_act _
  buffering := fun _ => Program.throwsOnly_update _
  closes := closeConnection_refuses side

/-- The rounds of a receive call refuse what they come across with one of the three codes. -/
theorem tryRecvRound_refuses (side : Side) (startTime timeout remainingTime : ℚ) :
    (tryRecvRound side startTime timeout remainingTime).ThrowsOnly Fault.Refuses := by
  have refuses : RefusalsHave fun {_} method => method.ThrowsOnly Fault.Refuses :=
    fun _ _ one => Program.throwsOnly_raise one
  have writes : WritesHave fun {_} method => method.ThrowsOnly Fault.Refuses :=
    fun _ => Program.throwsOnly_update _
  have handles := (refuses_steps side).handleOneMessage_has (fun _ => Program.throwsOnly_act _)
    refuses writes
  exact (refuses_steps side).tryRecvRound_has refuses handles startTime timeout remainingTime

end Rcom
