import Handheld.Decimal.Binary

/-!
Division of floating-point numbers by whole ones, with a quotient rounded down and a remainder that
is not negative.
-/

namespace Handheld.Decimal

/-- What is left of a value when a divisor has been taken out as often as possible. -/
def Binary.remainder (value : Binary) (divisor : Nat) : Binary :=
  { value with
    mantissa := value.mantissa * power 2 value.exponent % (divisor * power 2 (-value.exponent))
    exponent := min value.exponent 0 }

/-- What is left of a number, with its sign. No part of a remainder is lost, since it is no longer
than the number itself. -/
def remainder (x : Float) (divisor : Nat) : Float :=
  if x.isFinite then
    let { mantissa, exponent, .. } := (Binary.ofBits x.toBits).remainder divisor
    let left := (Float.ofNat mantissa).scaleB exponent
    if isNegative x then -left else left
  else x - x

/-- The remainder for a quotient that is rounded down. -/
def modulo (x : Float) (divisor : Nat) : Float :=
  let left := remainder x divisor
  if left < 0 then left + Float.ofNat divisor
  else if left == 0 then 0
  else left

/-- The quotient rounded down. Taking the remainder out first leaves a multiple of the divisor, or
nearly so where the number is too long for that. -/
def quotient (x : Float) (divisor : Nat) : Float :=
  let left := remainder x divisor
  let whole := (x - left) / Float.ofNat divisor
  let down := if left < 0 then whole - 1 else whole
  let next := down.floor
  if down - next > 0.5 then next + 1 else next

end Handheld.Decimal
