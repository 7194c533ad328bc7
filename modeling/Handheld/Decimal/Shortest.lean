import Handheld.Decimal.Binary

/-!
The shortest decimal that reads back as a given floating-point value, nearest first and with ties
to the even digit. All comparisons are exact, on natural numbers.
-/

namespace Handheld.Decimal

/-- The number `digits * 10 ^ exponent`. -/
structure Digits where
  digits : Nat
  exponent : Int
  deriving DecidableEq, Repr

/-- Compares `a * 10 ^ i` with `n * 2 ^ j`. -/
def compareScaled (a : Nat) (i : Int) (n : Nat) (j : Int) : Ordering :=
  compare (a * power 10 i * power 2 (-j)) (n * power 2 j * power 10 (-i))

/-- Whether a decimal lies among the reals that round to a value. The ends of that interval belong
to it when the mantissa is even. -/
def Binary.readsBack (value : Binary) (decimal : Digits) : Bool :=
  let below := if value.narrowBelow then 4 * value.mantissa - 1 else 4 * value.mantissa - 2
  let above := 4 * value.mantissa + 2
  let closed := value.mantissa % 2 = 0
  let low := compareScaled decimal.digits decimal.exponent below (value.exponent - 2)
  let high := compareScaled decimal.digits decimal.exponent above (value.exponent - 2)
  (low = .gt ∨ (closed ∧ low = .eq)) ∧ (high = .lt ∨ (closed ∧ high = .eq))

/-- The least power of ten above a value. The binary logarithm gives a guess that is at most two
steps away. -/
def Binary.scale (value : Binary) : Int :=
  let guess := (value.mantissa.log2 + value.exponent) * 30103 / 100000
  let candidates := (List.range 6).map fun (step : Nat) => guess - 2 + step
  (candidates.find? fun k => compareScaled 1 k value.mantissa value.exponent = .gt).getD (guess + 4)

/-- The decimal with `count` digits that reads back as a value, if there is one. -/
def Binary.withDigits? (value : Binary) (scale : Int) (count : Nat) : Option Digits :=
  let exponent := scale - count
  let numerator := value.mantissa * power 2 value.exponent * power 10 (-exponent)
  let denominator := power 2 (-value.exponent) * power 10 exponent
  let low : Digits := ⟨numerator / denominator, exponent⟩
  let high : Digits := ⟨numerator / denominator + 1, exponent⟩
  let nearer :=
    match compare (2 * numerator) ((2 * low.digits + 1) * denominator) with
    | .lt => low
    | .gt => high
    | .eq => if low.digits % 2 = 0 then low else high
  match value.readsBack low, value.readsBack high with
  | true, true => some nearer
  | true, false => some low
  | false, true => some high
  | false, false => none

/-- The exact decimal expansion of a value. -/
def Binary.exact (value : Binary) : Digits :=
  if value.exponent < 0 then
    ⟨value.mantissa * power 5 (-value.exponent), value.exponent⟩
  else
    ⟨value.mantissa * power 2 value.exponent, 0⟩

/-- Moves zeros at the end of the digits into the exponent, at most `limit` of them. -/
def Digits.strip (limit : Nat) (decimal : Digits) : Digits :=
  match limit with
  | 0 => decimal
  | limit + 1 =>
    if decimal.digits ≠ 0 ∧ decimal.digits % 10 = 0 then
      Digits.strip limit ⟨decimal.digits / 10, decimal.exponent + 1⟩
    else
      decimal

/-- The shortest decimal that reads back as a value. Seventeen digits always suffice. -/
def Binary.shortest (value : Binary) : Digits :=
  let scale := value.scale
  let found := (List.range 17).findSome? fun count => value.withDigits? scale (count + 1)
  (found.getD value.exact).strip 400

end Handheld.Decimal
