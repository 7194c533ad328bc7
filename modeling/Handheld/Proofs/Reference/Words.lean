import Handheld.Proofs.Cpu.Range
import Handheld.Proofs.Reference.Machine

/-! Arithmetic on numbers and arithmetic on words leave the same registers.
A register file holds the words of the reference processor as numbers from zero upwards.
-/

namespace Handheld.Reference

open Cpu (Registers Register16 Flags Condition Arithmetic Rotation)

/-- The register file holds these words, as the numbers that they stand for. -/
structure Holds (r : Registers) (w : Words) : Prop where
  a : r.a = w.a.toNat
  f : w.f = flagByte r.flags.z r.flags.n r.flags.h r.flags.c
  b : r.b = w.b.toNat
  c : r.c = w.c.toNat
  d : r.d = w.d.toNat
  e : r.e = w.e.toNat
  h : r.h = w.h.toNat
  l : r.l = w.l.toNat
  sp : r.sp = w.sp.toNat
  pc : r.pc = w.pc.toNat

-----------------------------------------------------------------------------------------
-- Flags
-----------------------------------------------------------------------------------------

@[simp] theorem flagByte_zero (z n h c : Bool) : (flagByte z n h c)[7] = z := by
  revert z n h c
  decide

@[simp] theorem flagByte_subtract (z n h c : Bool) : (flagByte z n h c)[6] = n := by
  revert z n h c
  decide

@[simp] theorem flagByte_halfCarry (z n h c : Bool) : (flagByte z n h c)[5] = h := by
  revert z n h c
  decide

@[simp] theorem flagByte_carry (z n h c : Bool) : (flagByte z n h c)[4] = c := by
  revert z n h c
  decide

/-- The low nibble of a flag byte is zero. -/
theorem flagByte_lowNibble (z n h c : Bool) : flagByte z n h c &&& 0x0F#8 = 0 := by
  revert z n h c
  decide

/-- The flag register shows the flag byte. -/
theorem flags_toInt (flags : Flags)
    : flags.toInt = (flagByte flags.z flags.n flags.h flags.c).toNat := by
  obtain ⟨z, n, h, c⟩ := flags
  revert z n h c
  decide

/-- A bit of a word is the same bit of its number. -/
theorem bit_toNat {width : Nat} (index : Nat) (word : BitVec width)
    : Bits.bit index word.toNat = word.getLsbD index := by
  rw [Bits.bit, BitVec.getLsbD, Nat.testBit_eq_decide_div_mod_eq]
  have shifted : ((word.toNat : Int) >>> index) = ((word.toNat >>> index : Nat) : Int) := rfl
  rw [shifted, Nat.shiftRight_eq_div_pow]
  congr 1
  apply propext
  omega

/-- Of a byte that is written to the flag register the high nibble is kept. -/
theorem flags_ofInt (word : Word)
    : word.extractLsb' 0 8 &&& 0xF0#8
      = flagByte (Flags.ofInt word.toNat).z (Flags.ofInt word.toNat).n
          (Flags.ofInt word.toNat).h (Flags.ofInt word.toNat).c := by
  have nibble : ∀ low : Byte,
      low &&& 0xF0#8 = flagByte (low.getLsbD 7) (low.getLsbD 6) (low.getLsbD 5) (low.getLsbD 4) := by
    decide +kernel
  rw [nibble]
  simp [Flags.ofInt, bit_toNat]

namespace Holds

variable {r : Registers} {w : Words}

theorem zero (holds : Holds r w) : w.zero = r.flags.z := by
  simp [Words.zero, holds.f]

theorem subtract (holds : Holds r w) : w.subtract = r.flags.n := by
  simp [Words.subtract, holds.f]

theorem halfCarry (holds : Holds r w) : w.halfCarry = r.flags.h := by
  simp [Words.halfCarry, holds.f]

theorem carry (holds : Holds r w) : w.carry = r.flags.c := by
  simp [Words.carry, holds.f]

/-- A test has the same outcome. -/
theorem test (holds : Holds r w) (test : Option Condition)
    : test.all (·.holds r.flags) = w.holds test := by
  have zero := holds.zero
  have carry := holds.carry
  cases test with
  | none => rfl
  | some condition =>
      cases condition with
      | nz => exact congrArg (!·) zero.symm
      | z => exact zero.symm
      | nc => exact congrArg (!·) carry.symm
      | c => exact carry.symm

end Holds

-----------------------------------------------------------------------------------------
-- Pairs
-----------------------------------------------------------------------------------------

/-- A high byte and a low byte side by side are their word. -/
theorem join_toNat (high low : Byte)
    : Bits.join high.toNat low.toNat = ((high ++ low : Word).toNat : Int) := by
  have shifted : (high.toNat : Int) * (256 : Int) = ((high.toNat <<< 8 : Nat) : Int) := by
    rw [Nat.shiftLeft_eq]
    omega
  rw [Bits.join, shifted, BitVec.toNat_append]
  rfl

/-- A high byte and a low byte add up to their word. -/
theorem joinSum_toNat (high low : Byte)
    : (high.toNat : Int) * 256 + low.toNat = ((high ++ low : Word).toNat : Int) := by
  rw [BitVec.toNat_append, ← Nat.shiftLeft_add_eq_or_of_lt low.isLt, Nat.shiftLeft_eq]
  omega

theorem high_toNat (word : Word)
    : (word.toNat : Int) / 256 % 256 = ((word.extractLsb' 8 8).toNat : Int) := by
  rw [BitVec.extractLsb'_toNat, Nat.shiftRight_eq_div_pow]
  omega

theorem low_toNat (word : Word)
    : (word.toNat : Int) % 256 = ((word.extractLsb' 0 8).toNat : Int) := by
  rw [BitVec.extractLsb'_toNat, Nat.shiftRight_eq_div_pow]
  omega

namespace Holds

variable {r : Registers} {w : Words}

/-- A pair shows its word. The accumulator is no negative number, so it makes no difference how
the flags have been set.
-/
theorem get16 (holds : Holds r w) (pair : Register16)
    : r.get16 pair = (w.pair pair).toNat := by
  cases pair with
  | af =>
      have joined : Bits.join r.a r.f = ((w.a ++ w.f : Word).toNat : Int) := by
        rw [holds.a, Registers.f, flags_toInt, ← holds.f, join_toNat]
      simp only [Registers.get16, joined, Bits.raise]
      simp [Words.pair]
  | bc => simp [Registers.get16, holds.b, holds.c, join_toNat, Words.pair]
  | de => simp [Registers.get16, holds.d, holds.e, join_toNat, Words.pair]
  | hl => simp [Registers.get16, holds.h, holds.l, join_toNat, Words.pair]
  | sp => simp [Registers.get16, holds.sp, Words.pair]

/-- A word may be stored in a pair. -/
theorem set16 (holds : Holds r w) (pair : Register16) (word : Word)
    : Holds (r.set16 pair word.toNat) (w.setPair pair word) := by
  cases pair with
  | af => exact { holds with a := high_toNat word, f := flags_ofInt word }
  | bc => exact { holds with b := high_toNat word, c := low_toNat word }
  | de => exact { holds with d := high_toNat word, e := low_toNat word }
  | hl => exact { holds with h := high_toNat word, l := low_toNat word }
  | sp => exact { holds with sp := rfl }

end Holds

-----------------------------------------------------------------------------------------
-- Sums, differences and their carries
-----------------------------------------------------------------------------------------

theorem sum_toNat (x y : Byte) (carryIn : Bool)
    : ((x.toNat : Int) + y.toNat + carryIn.toNat) % 256
      = ((x + y + (BitVec.ofBool carryIn).setWidth 8).toNat : Int) := by
  cases carryIn <;> simp

theorem difference_toNat (x y : Byte) (borrowIn : Bool)
    : ((x.toNat : Int) - y.toNat - borrowIn.toNat) % 256
      = ((x + ~~~y + (BitVec.ofBool (!borrowIn)).setWidth 8).toNat : Int) := by
  have bound := y.isLt
  cases borrowIn <;> simp <;> omega

theorem halfCarry_toNat (x y : Byte) (carryIn : Bool)
    : decide ((x.toNat : Int) % 16 + (y.toNat : Int) % 16 + carryIn.toNat > 15)
      = BitVec.carry 4 x y carryIn := by
  rw [BitVec.carry]
  congr 1
  apply propext
  omega

theorem fullCarry_toNat (x y : Byte) (carryIn : Bool)
    : decide ((x.toNat : Int) + y.toNat + carryIn.toNat > 255)
      = BitVec.carry 8 x y carryIn := by
  rw [BitVec.carry]
  congr 1
  apply propext
  omega

/-- A half-borrow is a carry that fails to appear in the sum with the complement. -/
theorem halfBorrow_toNat (x y : Byte) (borrowIn : Bool)
    : decide ((x.toNat : Int) % 16 < (y.toNat : Int) % 16 + borrowIn.toNat)
      = !BitVec.carry 4 x (~~~y) (!borrowIn) := by
  rw [BitVec.carry, BitVec.toNat_not, ← decide_not]
  congr 1
  apply propext
  have bound := y.isLt
  cases borrowIn <;> simp <;> omega

/-- A borrow is a carry that fails to appear in the sum with the complement. -/
theorem fullBorrow_toNat (x y : Byte) (borrowIn : Bool)
    : decide ((x.toNat : Int) < y.toNat + borrowIn.toNat)
      = !BitVec.carry 8 x (~~~y) (!borrowIn) := by
  rw [BitVec.carry, BitVec.toNat_not, ← decide_not]
  congr 1
  apply propext
  have bound := y.isLt
  cases borrowIn <;> simp <;> omega

theorem lxor_toNat (x y : Byte) : Bits.lxor x.toNat y.toNat % 256 = ((x ^^^ y).toNat : Int) := by
  have bound := (x ^^^ y).isLt
  have joined : Bits.lxor x.toNat y.toNat = ((x ^^^ y).toNat : Int) := rfl
  omega

theorem lor_toNat (x y : Byte) : Bits.lor x.toNat y.toNat % 256 = ((x ||| y).toNat : Int) := by
  have bound := (x ||| y).isLt
  have joined : Bits.lor x.toNat y.toNat = ((x ||| y).toNat : Int) := rfl
  omega

/-- A decimal correction that is added. -/
theorem raised_toNat (x : Byte) (low high : Bool)
    : ((x.toNat : Int) + ((if low then 6 else 0) + (if high then 0x60 else 0))) % 256
      = ((x + ((if low then 0x06 else 0) ||| (if high then 0x60 else 0))).toNat : Int) := by
  have whole : (x.toNat : Int) % 256 = x.toNat := by omega
  cases low <;> cases high <;> simp [BitVec.toNat_add, whole]

/-- A decimal correction that is taken off. -/
theorem lowered_toNat (x : Byte) (low high : Bool)
    : ((x.toNat : Int) - ((if low then 6 else 0) + (if high then 0x60 else 0))) % 256
      = ((x - ((if low then 0x06 else 0) ||| (if high then 0x60 else 0))).toNat : Int) := by
  cases low <;> cases high <;> simp [BitVec.toNat_sub] <;> omega

/-- A number from zero upwards is zero just if its word is. -/
theorem zero_toNat {width : Nat} (word : BitVec width)
    : decide ((word.toNat : Int) = 0) = decide (word = 0) := by
  congr 1
  apply propext
  rw [Int.natCast_eq_zero, BitVec.toNat_eq]
  simp

namespace Holds

variable {r : Registers} {w : Words}

/-- Flags may be set from their truth values. -/
theorem setFlags (holds : Holds r w) (z n h c : Bool)
    : Holds (r.setFlags ⟨z, n, h, c⟩) (w.setFlags z n h c) :=
  { holds with f := rfl }

/-- The accumulator may be replaced. -/
theorem setA (holds : Holds r w) {number : Int} {byte : Byte} (same : number = byte.toNat)
    : Holds { r with a := number } { w with a := byte } :=
  { holds with a := same }

/-- A sum on the accumulator leaves the same flags and the same accumulator. -/
theorem addA (holds : Holds r w) (value : Byte) (carryIn : Bool)
    : Holds
        { r.setFlags {
            z := (r.a + value.toNat + carryIn.toNat) % 256 = 0, n := false
            h := r.a % 16 + (value.toNat : Int) % 16 + carryIn.toNat > 15
            c := r.a + value.toNat + carryIn.toNat > 255 }
          with a := (r.a + value.toNat + carryIn.toNat) % 256 }
        (w.addA value carryIn) := by
  rw [holds.a, halfCarry_toNat, fullCarry_toNat, sum_toNat, zero_toNat]
  exact (holds.setFlags _ _ _ _).setA rfl

/-- A difference from the accumulator leaves the same flags and the same accumulator. -/
theorem subtractA (holds : Holds r w) (value : Byte) (borrowIn : Bool)
    : Holds
        { r.setFlags {
            z := (r.a - value.toNat - borrowIn.toNat) % 256 = 0, n := true
            h := r.a % 16 < (value.toNat : Int) % 16 + borrowIn.toNat
            c := r.a < value.toNat + borrowIn.toNat }
          with a := (r.a - value.toNat - borrowIn.toNat) % 256 }
        (w.subtractA value borrowIn) := by
  rw [holds.a, halfBorrow_toNat, fullBorrow_toNat, difference_toNat, zero_toNat]
  exact (holds.setFlags _ _ _ _).setA rfl

/-- A result of bitwise logic leaves the same flags and the same accumulator. -/
theorem logicA (holds : Holds r w) {number : Int} {byte : Byte} (same : number = byte.toNat)
    (halfCarry : Bool)
    : Holds
        { r.setFlags { z := number = 0, n := false, h := halfCarry, c := false } with a := number }
        (w.logicA byte halfCarry) := by
  rw [same, zero_toNat]
  exact (holds.setFlags _ _ _ _).setA rfl

/-- Every accumulator operation leaves the same registers. -/
theorem accumulate (holds : Holds r w) (operation : Arithmetic) (value : Byte)
    : Holds (operation.apply value.toNat r) (w.accumulate operation value) := by
  have none : ((false.toNat : Nat) : Int) = 0 := rfl
  cases operation with
  | add =>
      have sum := holds.addA value false
      simp only [none, Int.add_zero] at sum
      exact sum
  | adc =>
      rw [Words.accumulate, holds.carry]
      exact holds.addA value r.flags.c
  | sub =>
      have difference := holds.subtractA value false
      simp only [none, Int.add_zero, Int.sub_zero] at difference
      exact difference
  | sbc =>
      rw [Words.accumulate, holds.carry]
      exact holds.subtractA value r.flags.c
  | and => exact holds.logicA (by rw [holds.a]; rfl) true
  | xor => exact holds.logicA (by rw [holds.a, lxor_toNat]) false
  | or => exact holds.logicA (by rw [holds.a, lor_toNat]) false
  | cp =>
      have difference := holds.subtractA value false
      simp only [none, Int.add_zero, Int.sub_zero] at difference
      exact { difference with a := holds.a }

end Holds

-----------------------------------------------------------------------------------------
-- Rotations, increments and single bits
-----------------------------------------------------------------------------------------

/-- A rotation of a number gives the rotated byte and the bit that falls out, by running through
all bytes.
-/
theorem shift_toNat (rotation : Rotation) (value : Byte) (carry : Bool)
    : rotation.shift value.toNat carry.toNat
      = (((Words.rotated rotation value carry).1.toNat : Int),
          ((Words.rotated rotation value carry).2.toNat : Int)) := by
  revert value
  cases rotation <;> cases carry <;> decide +kernel

theorem toNat_ne_zero (out : Bool) : decide ((out.toNat : Int) ≠ 0) = out := by
  cases out <;> rfl

theorem increment_toNat (x : Byte) : ((x.toNat : Int) + 1) % 256 = ((x + 1).toNat : Int) := by
  rw [BitVec.toNat_add]
  rfl

theorem decrement_toNat (x : Byte) : ((x.toNat : Int) - 1) % 256 = ((x - 1).toNat : Int) := by
  have one : (1 : Byte).toNat = 1 := rfl
  rw [BitVec.toNat_sub, one]
  omega

/-- An increment carries out of the low nibble just if that is full. -/
theorem incrementCarry_toNat (x : Byte)
    : decide ((x.toNat : Int) % 16 = 15) = BitVec.carry 4 x 1 false := by
  have one : (1 : Byte).toNat = 1 := rfl
  have none : false.toNat = 0 := rfl
  rw [BitVec.carry, one, none]
  congr 1
  apply propext
  omega

/-- A decrement borrows from the high nibble just if the low one is empty. -/
theorem decrementCarry_toNat (x : Byte)
    : decide ((x.toNat : Int) % 16 = 0) = !BitVec.carry 4 x (~~~1) true := by
  have complement : (~~~(1 : Byte)).toNat = 254 := rfl
  have one : true.toNat = 1 := rfl
  rw [BitVec.carry, complement, one, ← decide_not]
  congr 1
  apply propext
  omega

/-- The number of a single bit is that of the byte in which only this bit is set. -/
theorem single_toNat (index : BitVec 3)
    : Bits.single index.toNat = ((1#8 <<< index.toNat).toNat : Int) := by
  revert index
  decide

theorem getElem_single (index : BitVec 3) {position : Nat} (bound : position < 8)
    : (1#8 <<< index.toNat)[position] = decide (position = index.toNat) := by
  rw [Bool.eq_iff_iff]
  simp
  omega

/-- A byte in which a bit is clear has nothing in common with that bit. -/
theorem and_single_of_clear {index : BitVec 3} {value : Byte}
    (clear : value.getLsbD index.toNat = false)
    : value &&& 1#8 <<< index.toNat = 0 := by
  ext position bound
  rw [BitVec.getElem_and, getElem_single, ← BitVec.getLsbD_eq_getElem]
  by_cases same : position = index.toNat
  · simp [same, clear]
  · simp [same]

/-- A byte in which a bit is set gains nothing from that bit. -/
theorem or_single_of_set {index : BitVec 3} {value : Byte}
    (set : value.getLsbD index.toNat = true)
    : value ||| 1#8 <<< index.toNat = value := by
  ext position bound
  rw [BitVec.getElem_or, getElem_single, ← BitVec.getLsbD_eq_getElem]
  by_cases same : position = index.toNat
  · simp [same, set]
  · simp [same]

/-- A byte in which a bit is set is what remains without the bit, and the bit. -/
theorem reset_add_single {index : BitVec 3} {value : Byte}
    (set : value.getLsbD index.toNat = true)
    : (value &&& ~~~(1#8 <<< index.toNat)) + 1#8 <<< index.toNat = value := by
  have clear : (value &&& ~~~(1#8 <<< index.toNat)).getLsbD index.toNat = false := by
    simp
  rw [BitVec.add_eq_or_of_and_eq_zero _ _ (and_single_of_clear clear)]
  ext position bound
  rw [BitVec.getElem_or, BitVec.getElem_and, BitVec.getElem_not, getElem_single,
    ← BitVec.getLsbD_eq_getElem]
  by_cases same : position = index.toNat
  · simp [same, set]
  · simp [same]

/-- Adding a bit to a number in which it is clear sets it in the byte. -/
theorem set_toNat (index : BitVec 3) (value : Byte)
    : (if Bits.bit index.toNat value.toNat then (value.toNat : Int)
        else value.toNat + Bits.single index.toNat) % 256
      = ((value ||| 1#8 <<< index.toNat).toNat : Int) := by
  rw [bit_toNat, single_toNat]
  cases set : value.getLsbD index.toNat with
  | true =>
      have bound := value.isLt
      rw [if_pos rfl, or_single_of_set set]
      omega
  | false =>
      rw [if_neg (by decide), ← BitVec.add_eq_or_of_and_eq_zero _ _ (and_single_of_clear set),
        BitVec.toNat_add]
      omega

/-- Taking a bit off a number in which it is set clears it in the byte. -/
theorem reset_toNat (index : BitVec 3) (value : Byte)
    : (if Bits.bit index.toNat value.toNat then value.toNat - Bits.single index.toNat
        else (value.toNat : Int)) % 256
      = ((value &&& ~~~(1#8 <<< index.toNat)).toNat : Int) := by
  rw [bit_toNat, single_toNat]
  cases set : value.getLsbD index.toNat with
  | true =>
      have whole := congrArg BitVec.toNat (reset_add_single set)
      have bound := (value &&& ~~~(1#8 <<< index.toNat)).isLt
      rw [BitVec.toNat_add] at whole
      rw [if_pos rfl]
      omega
  | false =>
      have kept : value &&& ~~~(1#8 <<< index.toNat) = value := by
        ext position bound
        rw [BitVec.getElem_and, BitVec.getElem_not, getElem_single, ← BitVec.getLsbD_eq_getElem]
        by_cases same : position = index.toNat
        · simp [same, set]
        · simp [same]
      have bound := value.isLt
      rw [if_neg (by decide), kept]
      omega

namespace Holds

variable {r : Registers} {w : Words}

/-- A rotation leaves the same result. -/
theorem rotated (holds : Holds r w) (rotation : Rotation) (value : Byte)
    : (rotation.apply value.toNat r).1
      = ((Words.rotated rotation value w.carry).1.toNat : Int) := by
  rw [holds.carry]
  exact congrArg Prod.fst (shift_toNat rotation value r.flags.c)

/-- A rotation leaves the same flags. -/
theorem rotatedFlags (holds : Holds r w) (rotation : Rotation) (value : Byte)
    : Holds (rotation.apply value.toNat r).2
        (w.setFlags ((Words.rotated rotation value w.carry).1 = 0) false false
          (Words.rotated rotation value w.carry).2) := by
  rw [holds.carry]
  have shifted := shift_toNat rotation value r.flags.c
  have rotated : (rotation.apply value.toNat r).2
      = r.setFlags {
          z := (rotation.shift value.toNat r.flags.c.toNat).1 = 0, n := false, h := false
          c := (rotation.shift value.toNat r.flags.c.toNat).2 ≠ 0 } := rfl
  rw [rotated, shifted, zero_toNat, toNat_ne_zero]
  exact holds.setFlags _ _ _ _

/-- A rotation of the accumulator leaves the same registers. -/
theorem rotateA (holds : Holds r w) (rotation : Rotation)
    : Holds (r.rotateA rotation) (w.rotateA rotation) := by
  have flagged := holds.rotatedFlags rotation w.a
  have result := holds.rotated rotation w.a
  rw [← holds.a] at flagged result
  have carry : (rotation.apply r.a r).2.flags.c = (Words.rotated rotation w.a w.carry).2 := by
    rw [← flagged.carry]
    simp [Words.carry, Words.setFlags]
  exact { flagged with a := result, f := congrArg (flagByte false false false) carry.symm }

/-- An increment leaves the same flags. -/
theorem flagIncrement (holds : Holds r w) (value : Byte)
    : Holds (r.flagIncrement value.toNat (value + 1).toNat)
        (w.setFlags (value + 1 = 0) false (BitVec.carry 4 value 1 false) w.carry) := by
  rw [Registers.flagIncrement, zero_toNat, incrementCarry_toNat, holds.carry]
  exact holds.setFlags _ _ _ _

/-- A decrement leaves the same flags. -/
theorem flagDecrement (holds : Holds r w) (value : Byte)
    : Holds (r.flagDecrement value.toNat (value - 1).toNat)
        (w.setFlags (value - 1 = 0) true (!BitVec.carry 4 value (~~~1) true) w.carry) := by
  rw [Registers.flagDecrement, zero_toNat, decrementCarry_toNat, holds.carry]
  exact holds.setFlags _ _ _ _

/-- The complement of the accumulator leaves the same registers. -/
theorem complement (holds : Holds r w)
    : Holds r.complement { w.setFlags w.zero true true w.carry with a := ~~~w.a } := by
  have inverted : Bits.lxor r.a 0xFF = ((~~~w.a).toNat : Int) := by
    rw [holds.a, ← BitVec.xor_allOnes]
    rfl
  rw [holds.zero, holds.carry]
  exact (holds.setFlags _ _ _ _).setA inverted

/-- The carry flag may be set to any state. -/
theorem setCarry (holds : Holds r w) (carry : Bool)
    : Holds (r.setCarry carry) (w.setFlags w.zero false false carry) := by
  rw [holds.zero]
  exact holds.setFlags _ _ _ _

end Holds

-----------------------------------------------------------------------------------------
-- Words, addresses and signed offsets
-----------------------------------------------------------------------------------------

theorem incrementWord_toNat (x : Word)
    : ((x.toNat : Int) + 1) % 65536 = ((x + 1).toNat : Int) := by
  rw [BitVec.toNat_add]
  rfl

theorem decrementWord_toNat (x : Word)
    : ((x.toNat : Int) - 1) % 65536 = ((x - 1).toNat : Int) := by
  have one : (1 : Word).toNat = 1 := rfl
  rw [BitVec.toNat_sub, one]
  omega

theorem sumWord_toNat (x y : Word)
    : ((x.toNat : Int) + y.toNat) % 65536 = ((x + y).toNat : Int) := by
  rw [BitVec.toNat_add]
  rfl

theorem wordHalfCarry_toNat (x y : Word)
    : decide ((x.toNat : Int) % 4096 + (y.toNat : Int) % 4096 > 4095)
      = BitVec.carry 12 x y false := by
  rw [BitVec.carry]
  congr 1
  apply propext
  have none : false.toNat = 0 := rfl
  omega

theorem wordCarry_toNat (x y : Word)
    : decide ((x.toNat : Int) + y.toNat > 65535) = BitVec.carry 16 x y false := by
  rw [BitVec.carry]
  congr 1
  apply propext
  have none : false.toNat = 0 := rfl
  omega

/-- A byte with a sign is the word that it extends to, modulo 65536. -/
theorem signed_toNat (x : Word) (offset : Byte)
    : ((x.toNat : Int) + Bits.signed offset.toNat) % 65536
      = ((x + offset.signExtend 16).toNat : Int) := by
  have extended : Bits.signed offset.toNat % 65536 = ((offset.signExtend 16).toNat : Int) := by
    have sign : Bits.signed offset.toNat = offset.toInt := by
      rw [Bits.signed, bit_toNat, BitVec.toInt_eq_msb_cond, BitVec.msb_eq_getLsbD_last]
      rfl
    rw [sign, BitVec.signExtend, BitVec.toNat_ofInt]
    omega
  rw [← sumWord_toNat, ← extended, Int.add_emod_emod]

/-- The cell in the top page at an offset. -/
theorem page_toNat (offset : Byte)
    : Bits.lor 0xFF00 offset.toNat = ((0xFF#8 ++ offset : Word).toNat : Int) :=
  join_toNat 0xFF offset

theorem pageSum_toNat (offset : Byte)
    : 0xFF00 + (offset.toNat : Int) = ((0xFF#8 ++ offset : Word).toNat : Int) :=
  joinSum_toNat 0xFF offset

theorem low_setWidth (word : Word) : (word.toNat : Int) % 256 = ((word.setWidth 8).toNat : Int) := by
  rw [BitVec.toNat_setWidth]
  rfl

theorem vector_toNat (index : BitVec 3)
    : ((8 * index.toNat : Nat) : Int) = ((8 * index.setWidth 16 : Word).toNat : Int) := by
  revert index
  decide

namespace Holds

variable {r : Registers} {w : Words}

/-- A pair may be counted up by one. -/
theorem incWord (holds : Holds r w) (pair : Register16)
    : Holds (r.set16 pair ((r.get16 pair + 1) % 65536)) (w.setPair pair (w.pair pair + 1)) := by
  rw [holds.get16, incrementWord_toNat]
  exact holds.set16 pair _

/-- A pair may be counted down by one. -/
theorem decWord (holds : Holds r w) (pair : Register16)
    : Holds (r.set16 pair ((r.get16 pair - 1) % 65536)) (w.setPair pair (w.pair pair - 1)) := by
  rw [holds.get16, decrementWord_toNat]
  exact holds.set16 pair _

/-- A sum on `HL` leaves the same registers. -/
theorem addHl (holds : Holds r w) (source : Register16)
    : Holds (r.addHl source) (w.addToHl (w.pair source)) := by
  simp only [Registers.addHl, holds.get16, wordHalfCarry_toNat, wordCarry_toNat, sumWord_toNat]
  rw [Words.addToHl, holds.zero]
  exact (holds.setFlags _ _ _ _).set16 .hl _

/-- A sum of the stack pointer and a signed byte is the same, with the same flags. -/
theorem spPlus (holds : Holds r w) (offset : Byte)
    : (r.spPlus offset.toNat).1 = ((w.offsetSp offset).1.toNat : Int)
        ∧ Holds (r.spPlus offset.toNat).2 (w.offsetSp offset).2 := by
  have half := halfCarry_toNat (w.sp.extractLsb' 0 8) offset false
  have full := fullCarry_toNat (w.sp.extractLsb' 0 8) offset false
  have none : ((false.toNat : Nat) : Int) = 0 := rfl
  have nibble : (w.sp.toNat : Int) % 16 = ((w.sp.extractLsb' 0 8).toNat : Int) % 16 := by
    rw [← low_toNat]
    omega
  have byte : (offset.toNat : Int) % 256 = offset.toNat := by
    have bound := offset.isLt
    omega
  simp only [none, Int.add_zero] at half full
  refine ⟨by rw [Registers.spPlus, holds.sp, signed_toNat]; rfl, ?_⟩
  simp only [Registers.spPlus, holds.sp, nibble, byte, low_toNat, half, full]
  exact holds.setFlags _ _ _ _

/-- The decimal correction leaves the same registers. -/
theorem decimalAdjust (holds : Holds r w) : Holds r.decimalAdjust w.adjustDecimal := by
  have nibble : (w.a &&& 0x0F#8).toNat = w.a.toNat % 16 := Nat.and_two_pow_sub_one_eq_mod _ 4
  have highDigit : decide ((w.a.toNat : Int) > 0x99) = decide (0x99 < w.a.toNat) := by
    congr 1
    apply propext
    omega
  have lowDigit : decide ((w.a.toNat : Int) % 16 > 9) = decide (9 < w.a.toNat % 16) := by
    congr 1
    apply propext
    omega
  rw [Words.adjustDecimal, holds.subtract, holds.halfCarry, holds.carry, nibble]
  cases subtracted : r.flags.n with
  | true =>
      simp only [Bool.not_true, Bool.false_and, Bool.or_false, if_true]
      rw [Registers.decimalAdjust]
      simp only [subtracted, if_true, holds.a, lowered_toNat, zero_toNat]
      exact (holds.setFlags _ _ _ _).setA rfl
  | false =>
      simp only [Bool.not_false, Bool.true_and, Bool.false_eq_true, if_false]
      rw [Registers.decimalAdjust]
      simp only [subtracted, Bool.false_eq_true, if_false, highDigit, lowDigit, holds.a,
        raised_toNat, zero_toNat]
      exact (holds.setFlags _ _ _ _).setA rfl

end Holds

-----------------------------------------------------------------------------------------
-- Numbers that stand for words
-----------------------------------------------------------------------------------------

/-- A number and the word that it stands for. -/
def Number {width : Nat} (number : Int) (word : BitVec width) : Prop :=
  number = word.toNat

/-- Of a byte no more than eight bits are set. -/
theorem Number.low {number : Int} {byte : Byte} (same : Number number byte)
    : Number (number % 256) byte := by
  have bound := byte.isLt
  rw [same, Number]
  omega

/-- A high byte and a low byte make up a word. -/
theorem Number.join {high low : Int} {highByte lowByte : Byte} (above : Number high highByte)
    (below : Number low lowByte)
    : Number (high * 256 + low) (highByte ++ lowByte : Word) := by
  rw [above, below]
  exact joinSum_toNat highByte lowByte

/-- An operand is one that so many bytes can hold. -/
def Fits (operand : Word) (operation : Operation) : Prop :=
  operation.operandBytes = 1 → operand.toNat < 256

/-- A byte that stands as an operand. -/
theorem Fits.toNat_setWidth {operand : Word} {operation : Operation} (fits : Fits operand operation)
    (single : operation.operandBytes = 1)
    : (operand.toNat : Int) = ((operand.setWidth 8).toNat : Int) := by
  have bound := fits single
  rw [BitVec.toNat_setWidth]
  omega

-----------------------------------------------------------------------------------------
-- Register files in range
-----------------------------------------------------------------------------------------

/-- The words that a register file holds if it is in range. -/
def Words.ofRegisters (r : Registers) : Words where
  a := Byte.ofInt r.a
  f := flagByte r.flags.z r.flags.n r.flags.h r.flags.c
  b := Byte.ofInt r.b
  c := Byte.ofInt r.c
  d := Byte.ofInt r.d
  e := Byte.ofInt r.e
  h := Byte.ofInt r.h
  l := Byte.ofInt r.l
  sp := Word.ofInt r.sp
  pc := Word.ofInt r.pc

theorem ofInt_toNat_of_isByte {number : Int} (bounds : Cpu.IsByte number)
    : number = (Byte.ofInt number).toNat := by
  obtain ⟨lower, upper⟩ := bounds
  rw [← Byte.toNat_ofInt]
  omega

theorem ofInt_toNat_of_isWord {number : Int} (bounds : Cpu.IsWord number)
    : number = (Word.ofInt number).toNat := by
  obtain ⟨lower, upper⟩ := bounds
  rw [← Word.toNat_ofInt]
  omega

theorem isByte_toNat (byte : Byte) : Cpu.IsByte byte.toNat := by
  have bound := byte.isLt
  constructor <;> omega

theorem isWord_toNat (word : Word) : Cpu.IsWord word.toNat := by
  have bound := word.isLt
  constructor <;> omega

/-- Registers in range hold words. -/
theorem Holds.ofRegisters {r : Registers} (inRange : r.InRange) : Holds r (Words.ofRegisters r) where
  a := ofInt_toNat_of_isByte inRange.a
  f := rfl
  b := ofInt_toNat_of_isByte inRange.b
  c := ofInt_toNat_of_isByte inRange.c
  d := ofInt_toNat_of_isByte inRange.d
  e := ofInt_toNat_of_isByte inRange.e
  h := ofInt_toNat_of_isByte inRange.h
  l := ofInt_toNat_of_isByte inRange.l
  sp := ofInt_toNat_of_isWord inRange.sp
  pc := ofInt_toNat_of_isWord inRange.pc

/-- Registers that hold words are in range. -/
theorem Holds.inRange {r : Registers} {w : Words} (holds : Holds r w) : r.InRange where
  a := holds.a ▸ isByte_toNat w.a
  b := holds.b ▸ isByte_toNat w.b
  c := holds.c ▸ isByte_toNat w.c
  d := holds.d ▸ isByte_toNat w.d
  e := holds.e ▸ isByte_toNat w.e
  h := holds.h ▸ isByte_toNat w.h
  l := holds.l ▸ isByte_toNat w.l
  sp := holds.sp ▸ isWord_toNat w.sp
  pc := holds.pc ▸ isWord_toNat w.pc

/-- Words determine all of a register file but how its flags were set. -/
theorem Holds.settled_eq {r q : Registers} {w : Words} (left : Holds r w) (right : Holds q w)
    : r.settled = q.settled := by
  have flags : r.flags = q.flags := by
    have zero := left.zero.symm.trans right.zero
    have subtract := left.subtract.symm.trans right.subtract
    have halfCarry := left.halfCarry.symm.trans right.halfCarry
    have carry := left.carry.symm.trans right.carry
    cases left : r.flags
    cases right : q.flags
    simp_all
  simp only [Registers.settled, flags, left.a, left.b, left.c, left.d, left.e, left.h, left.l,
    left.sp, left.pc, right.a, right.b, right.c, right.d, right.e, right.h, right.l, right.sp,
    right.pc]

end Handheld.Reference
