import Librcom.Effects.Rules
import Librcom.WebSocket.Constants
import Mathlib.Algebra.Order.Archimedean.Basic
import Mathlib.Data.Stream.Init

/-! The system functions that read the clock, sleep, and draw random bytes. -/

namespace Rcom

open Effects

/-- The system, by the outcomes of the calls to come. -/
structure Linux where
  /-- The readings of the clock, in seconds. -/
  clock : Stream' ℚ
  /-- The results of `clock_nanosleep`. -/
  sleeps : Stream' Int
  /-- The random bytes drawn for masks. -/
  random : Stream' Mask

/-- A system whose clock stands still and whose sleeps succeed. -/
def Linux.steady : Linux where
  clock := Stream'.const 0
  sleeps := Stream'.const 0
  random := Stream'.const (Vector.replicate 4 0)

/-- A system whose clock goes on by a second with each reading, and whose sleeps succeed. -/
def Linux.running : Linux := { Linux.steady with clock := fun i => (i : ℚ) }

/-- The result of an interrupted sleep. -/
def EINTR : Int := 4

/-- A function that calls the system. -/
abbrev LinuxM := Program Linux Fault

namespace Linux

/-- The current time. -/
def rcomTime : LinuxM ℚ :=
  Program.act fun linux => (linux.clock.head, { linux with clock := linux.clock.tail })

/-- The result of `clock_nanosleep`. -/
def clockNanosleep (_seconds : ℚ) : LinuxM Int :=
  Program.act fun linux => (linux.sleeps.head, { linux with sleeps := linux.sleeps.tail })

/-- Sleep, or throw when the sleep did not succeed. -/
def rcomSleep (seconds : ℚ) : LinuxM Unit := do
  let r ← clockNanosleep seconds
  if r ≠ 0 then
    -- An interrupted sleep is not resumed, and so it is as bad as a failed one.
    if r = EINTR then Program.raise (.runtimeError "rcom_sleep: Interrupted")
    else Program.raise (.runtimeError "rcom_sleep: Failed")
  else pure ()

/-- A sleep either passes or throws because it did not succeed. -/
theorem rcomSleep_achieves (seconds : ℚ) (linux : Linux) :
    (rcomSleep seconds).Achieves linux
      (fun _ linux' => linux' = { linux with sleeps := linux.sleeps.tail })
      (fun _ linux' => linux' = { linux with sleeps := linux.sleeps.tail } ∧
        linux.sleeps.head ≠ 0) := by
  have napped : (clockNanosleep seconds).Yields linux linux.sleeps.head
      { linux with sleeps := linux.sleeps.tail } := Program.yields_act _ linux
  refine napped.bind_achieves ?_
  by_cases failed : linux.sleeps.head ≠ 0
  · rw [if_pos failed]
    -- An interrupted sleep and a failed one throw different texts.
    split
    · exact Program.achieves_raise ⟨rfl, failed⟩
    · exact Program.achieves_raise ⟨rfl, failed⟩
  · rw [if_neg failed]
    exact (Program.yields_pure _ _).achieves rfl

end Linux

end Rcom
