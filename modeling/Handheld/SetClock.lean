import Handheld.Clock
import Handheld.Decimal.Division

/-!
A clock that a host has set. Any value can be set, but only a number can be told and advanced. A
clock set to a number with a fraction keeps the fraction.
-/

namespace Handheld

/-- A clock with what a host has set it to. -/
structure SetClock where
  total : Json

namespace SetClock

/-- A clock set to a value. What counts as switched off sets it to zero. -/
def ofStart (start : Json) : SetClock where
  total := if start.isOn then start else .int 0

/-- Lets cycles pass, as many as would pass on any other clock. -/
def advance (amount : Json) : Attempt SetClock Unit := do
  let amount ← Attempt.expect amount.toNumber
  let (outcome, passed) := (Clock.advance amount).perform {}
  if let .error error := outcome then
    throw error
  let total ←
    match ← Attempt.expect (← get).total.toNumber with
    | .int total => pure (.int (total + passed.cycles))
    | total => do
      let passed ← Attempt.expect (Number.int passed.cycles).toFloat
      pure (total.add (.float passed))
  set { total := .number total : SetClock }

/-- The cycles, the machine cycles, the frame and the position in it. -/
def readings (clock : SetClock) : Except Misfit (List Json) := do
  match ← clock.total.toNumber with
  | .int cycles =>
    let whole : Clock := { cycles }
    return [clock.total, .int whole.machineCycles, .int whole.frame, .int whole.intoFrame]
  | .float cycles =>
    let perFrame := cyclesPerFrame.toNat
    return [clock.total, .float (Decimal.quotient cycles 4),
      .float (Decimal.quotient cycles perFrame), .float (Decimal.modulo cycles perFrame)]

end SetClock

end Handheld
