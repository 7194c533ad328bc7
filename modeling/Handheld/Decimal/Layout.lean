import Handheld.Decimal.Shortest

/-!
How a floating-point number is written.
-/

namespace Handheld.Decimal

/-- The decisions that a number format makes beyond the choice of digits. -/
structure Layout where
  /-- Numbers whose leading digit has an exponent from here on are written positionally. -/
  plainFrom : Int
  /-- Numbers whose leading digit has an exponent from here on have an exponent mark. -/
  plainBelow : Int
  /-- The least number of digits in an exponent. -/
  exponentWidth : Nat
  nan : String
  infinity : String

/-- Numbers in messages: positional from 0.0001 up to below 10^16, always with a point or an
exponent, and an exponent of two digits with its sign. -/
def inMessages : Layout where
  plainFrom := -4
  plainBelow := 16
  exponentWidth := 2
  nan := "nan"
  infinity := "inf"

/-- Numbers in documents differ from those in messages in the values that are not finite. -/
def inDocuments : Layout :=
  { inMessages with nan := "NaN", infinity := "Infinity" }

private def zeros (count : Nat) : List Char :=
  List.replicate count '0'

/-- Lays out a non-negative decimal. -/
def Layout.decimal (layout : Layout) (decimal : Digits) : List Char :=
  let digits := Nat.toDigits 10 decimal.digits
  let point : Int := digits.length + decimal.exponent
  if layout.plainFrom < point ∧ point ≤ layout.plainBelow then
    if point ≤ 0 then
      ['0', '.'] ++ zeros (-point).toNat ++ digits
    else if decimal.exponent ≥ 0 then
      digits ++ zeros decimal.exponent.toNat ++ ['.', '0']
    else
      digits.take point.toNat ++ ['.'] ++ digits.drop point.toNat
  else
    let exponent := point - 1
    let places := Nat.toDigits 10 exponent.natAbs
    let fraction := digits.drop 1
    digits.take 1
      ++ (if fraction.isEmpty then [] else '.' :: fraction)
      ++ ['e', if exponent < 0 then '-' else '+']
      ++ zeros (layout.exponentWidth - places.length) ++ places

/-- The text of a floating-point number. -/
def Layout.render (layout : Layout) (x : Float) : String :=
  if x.isNaN then layout.nan
  else
    let sign := if isNegative x then "-" else ""
    let value := Binary.ofBits x.toBits
    if x.isInf then sign ++ layout.infinity
    else if value.mantissa = 0 then sign ++ "0.0"
    else sign ++ String.ofList (layout.decimal value.shortest)

end Handheld.Decimal
