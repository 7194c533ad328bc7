/-!
Floating-point values as exact numbers: a natural number times a power of two.
-/

namespace Handheld.Decimal

/-- The finite non-negative value `mantissa * 2 ^ exponent`. -/
structure Binary where
  mantissa : Nat
  exponent : Int
  /-- The gap to the value below is half the gap to the value above. -/
  narrowBelow : Bool
  deriving DecidableEq, Repr

/-- The value that finite double-precision bits stand for, without their sign. -/
def Binary.ofBits (bits : UInt64) : Binary :=
  let biased := ((bits >>> 52) &&& 0x7FF).toNat
  let fraction := (bits &&& 0xFFFFFFFFFFFFF).toNat
  if biased = 0 then
    { mantissa := fraction, exponent := -1074, narrowBelow := false }
  else
    { mantissa := 0x10000000000000 + fraction
      exponent := (biased : Int) - 1075
      narrowBelow := fraction = 0 ∧ biased > 1 }

/-- A power with an exponent that may be negative: the whole number that it is above zero, and one
below. So `power b e / power b (-e)` is the power itself. -/
def power (base : Nat) (exponent : Int) : Nat :=
  Nat.pow base exponent.toNat

/-- The whole part of a value. -/
def Binary.floor (value : Binary) : Nat :=
  value.mantissa * power 2 value.exponent / power 2 (-value.exponent)

/-- The least whole number that is not below a value. -/
def Binary.ceil (value : Binary) : Nat :=
  let unit := power 2 (-value.exponent)
  (value.mantissa * power 2 value.exponent + (unit - 1)) / unit

/-- Whether the sign bit is set. -/
def isNegative (x : Float) : Bool :=
  x.toBits >>> 63 = 1

/-- The integer next to a number towards zero. -/
def truncate (x : Float) : Int :=
  let whole : Int := (Binary.ofBits x.toBits).floor
  if isNegative x then -whole else whole

/-- The greatest whole number that is not above a number. -/
def floor (x : Float) : Int :=
  let binary := Binary.ofBits x.toBits
  if isNegative x then -(binary.ceil : Int) else binary.floor

/-- The least whole number that is not below a number. -/
def ceil (x : Float) : Int :=
  let binary := Binary.ofBits x.toBits
  if isNegative x then -(binary.floor : Int) else binary.ceil

end Handheld.Decimal
