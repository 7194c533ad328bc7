import Handheld.Attempt

/-!
The machine's clock: the number of cycles since it was switched on.
-/

namespace Handheld

/-- Cycles in one frame: 154 lines of 456 cycles. -/
abbrev cyclesPerFrame : Int := 70224

/-- A count of elapsed clock cycles. A reset of the machine does not touch it. -/
structure Clock where
  cycles : Int := 0
  deriving DecidableEq, Repr

namespace Clock

/-- Lets cycles pass. Only whole cycles count, and time does not run backwards. -/
def advance (amount : Number) : Attempt Clock Unit := do
  if amount.isNegative then
    throw (.rewind amount)
  let whole ← Attempt.expect amount.toInt
  modify fun clock => { cycles := clock.cycles + whole }

/-- The clock some whole cycles later. -/
def after (clock : Clock) (cycles : Nat) : Clock :=
  { cycles := clock.cycles + cycles }

/-- Elapsed machine cycles, of four clock cycles each. -/
def machineCycles (clock : Clock) : Int :=
  clock.cycles / 4

/-- The number of the current frame. -/
def frame (clock : Clock) : Int :=
  clock.cycles / cyclesPerFrame

/-- The position within the current frame. -/
def intoFrame (clock : Clock) : Int :=
  clock.cycles % cyclesPerFrame

end Clock

end Handheld
