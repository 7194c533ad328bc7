import Handheld.Bits
import Mathlib.Data.Nat.Digits.Lemmas

/-! Numbers that are written one digit to a byte, the lowest digit first.
A byte is one digit to the base 256, or two decimal digits and so one to the base 100.
-/

namespace Handheld

/-- A way to read bytes as digits. -/
structure Numeral where
  base : Nat
  /-- Bytes that stand for a digit. -/
  IsDigit : Byte → Prop
  digit : Byte → Nat
  one_lt_base : 1 < base
  digit_lt : ∀ {byte}, IsDigit byte → digit byte < base
  digit_inj : ∀ {a b}, IsDigit a → IsDigit b → digit a = digit b → a = b

namespace Numeral

/-- Every byte is a digit. -/
def binary : Numeral where
  base := 256
  IsDigit _ := True
  digit byte := byte.toNat
  one_lt_base := by decide
  digit_lt _ := BitVec.isLt _
  digit_inj _ _ := BitVec.eq_of_toNat_eq

/-- Both halves of a byte are decimal digits. -/
def IsPacked (byte : Byte) : Prop :=
  byte.toNat / 16 < 10 ∧ byte.toNat % 16 < 10

/-- A byte stands for two decimal digits, the higher one in its upper half. -/
def decimal : Numeral where
  base := 100
  IsDigit := IsPacked
  digit byte := 10 * (byte.toNat / 16) + byte.toNat % 16
  one_lt_base := by decide
  digit_lt := by
    intro byte ⟨high, low⟩
    omega
  digit_inj := by
    intro a b ⟨_, low⟩ ⟨_, low'⟩ same
    refine BitVec.eq_of_toNat_eq ?_
    omega

variable {numeral : Numeral} {x y z : List Byte}

/-- The number that bytes stand for. -/
def value (numeral : Numeral) (bytes : List Byte) : Nat :=
  Nat.ofDigits numeral.base (bytes.map numeral.digit)

/-- All bytes are digits. -/
def Valid (numeral : Numeral) (bytes : List Byte) : Prop :=
  ∀ byte ∈ bytes, numeral.IsDigit byte

/-- So many bytes stand for this number. -/
structure Writes (numeral : Numeral) (number count : Nat) (bytes : List Byte) : Prop where
  length : bytes.length = count
  valid : numeral.Valid bytes
  value : numeral.value bytes = number

theorem valid_binary (bytes : List Byte) : binary.Valid bytes :=
  fun _ _ => trivial

theorem forall_digit_lt {bytes : List Byte} (valid : numeral.Valid bytes)
    : ∀ digit ∈ bytes.map numeral.digit, digit < numeral.base :=
  List.forall_mem_map.mpr fun byte inside => numeral.digit_lt (valid byte inside)

theorem value_lt {bytes : List Byte} (valid : numeral.Valid bytes)
    : numeral.value bytes < numeral.base ^ bytes.length := by
  have bound := Nat.ofDigits_lt_base_pow_length numeral.one_lt_base (forall_digit_lt valid)
  rwa [List.length_map] at bound

theorem eq_of_map_digit (validX : numeral.Valid x) (validY : numeral.Valid y)
    (same : x.map numeral.digit = y.map numeral.digit)
    : x = y := by
  induction x generalizing y with
  | nil => exact (List.map_eq_nil_iff.mp same.symm).symm
  | cons first rest ih =>
      obtain ⟨other, others, rfl, head, tail⟩ := List.map_eq_cons_iff.mp same.symm
      obtain ⟨digitX, restX⟩ := List.forall_mem_cons.mp validX
      obtain ⟨digitY, restY⟩ := List.forall_mem_cons.mp validY
      rw [numeral.digit_inj digitX digitY head.symm, ih restX restY tail.symm]

/-- A number is written in so many digits in one way only. -/
theorem value_inj (validX : numeral.Valid x) (validY : numeral.Valid y)
    (length : x.length = y.length) (same : numeral.value x = numeral.value y)
    : x = y :=
  eq_of_map_digit validX validY
    (Nat.ofDigits_inj_of_len_eq numeral.one_lt_base (by simpa using length)
      (forall_digit_lt validX) (forall_digit_lt validY) same)

theorem Writes.unique {number count : Nat} (left : numeral.Writes number count x)
    (right : numeral.Writes number count y)
    : x = y :=
  value_inj left.valid right.valid (left.length.trans right.length.symm)
    (left.value.trans right.value.symm)

-----------------------------------------------------------------------------------------
-- Sums and differences in so many digits
-----------------------------------------------------------------------------------------

variable {carryIn carryOut : Bool}

/-- What is written of a sum in as many digits as its operands have, and the carry above them. -/
structure IsSum (numeral : Numeral) (x y : List Byte) (carryIn : Bool) (z : List Byte)
    (carryOut : Bool) : Prop where
  writes : numeral.Writes
    ((numeral.value x + numeral.value y + carryIn.toNat) % numeral.base ^ x.length) x.length z
  carry : carryOut = true
    ↔ numeral.base ^ x.length ≤ numeral.value x + numeral.value y + carryIn.toNat

/-- What is written of a difference, and whether there had to be a borrow. -/
structure IsDifference (numeral : Numeral) (x y : List Byte) (carryIn : Bool) (z : List Byte)
    (carryOut : Bool) : Prop where
  writes : numeral.Writes
    (((numeral.value x - numeral.value y - carryIn.toNat : Int)
      % (numeral.base ^ x.length : Nat)).toNat) x.length z
  carry : carryOut = true ↔ numeral.value x < numeral.value y + carryIn.toNat

theorem IsSum.of_total (length : z.length = x.length) (valid : numeral.Valid z)
    (total : numeral.value x + numeral.value y + carryIn.toNat
      = numeral.value z + numeral.base ^ x.length * carryOut.toNat)
    : numeral.IsSum x y carryIn z carryOut := by
  have bound := value_lt valid
  rw [length] at bound
  constructor
  case writes =>
    refine ⟨length, valid, ?_⟩
    rw [total, Nat.add_mul_mod_self_left, Nat.mod_eq_of_lt bound]
  case carry =>
    rw [total]
    cases carryOut with
    | false => simpa using bound
    | true => simp

theorem IsDifference.of_total (length : z.length = x.length) (valid : numeral.Valid z)
    (total : numeral.value z + numeral.value y + carryIn.toNat
      = numeral.value x + numeral.base ^ x.length * carryOut.toNat)
    : numeral.IsDifference x y carryIn z carryOut := by
  have bound := value_lt valid
  rw [length] at bound
  constructor
  case writes =>
    refine ⟨length, valid, ?_⟩
    have difference : (numeral.value x - numeral.value y - carryIn.toNat : Int)
        = numeral.value z - (numeral.base ^ x.length : Nat) * carryOut.toNat := by
      have total := congrArg (Nat.cast (R := Int)) total
      push_cast at total ⊢
      linarith
    rw [difference, Int.sub_mul_emod_self_left, ← Int.natCast_emod, Nat.mod_eq_of_lt bound,
      Int.toNat_natCast]
  case carry =>
    generalize numeral.base ^ x.length = limit at total bound
    cases carryOut with
    | false =>
        have balanced : numeral.value z + numeral.value y + carryIn.toNat = numeral.value x := total
        simp only [Bool.false_eq_true, false_iff, not_lt]
        omega
    | true =>
        have borrowed : numeral.value z + numeral.value y + carryIn.toNat
            = numeral.value x + limit := by
          simpa using total
        simp only [true_iff]
        omega

end Numeral

end Handheld
