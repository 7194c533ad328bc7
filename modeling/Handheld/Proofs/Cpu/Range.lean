import Handheld.Cpu.Registers

/-! Registers that hold what the hardware can hold.
A host may store any number in a register, so this is an invariant and not a type.
-/

namespace Handheld

/-- The low eight bits of a number are what remains of it modulo 256. -/
theorem Byte.toNat_ofInt (value : Int) : value % 256 = ((Byte.ofInt value).toNat : Int) := by
  rw [Byte.ofInt, BitVec.toNat_ofInt]
  omega

/-- The low byte of a number has the bits of the number. -/
theorem Byte.getLsbD_ofInt {index : Nat} (bound : index < 8) (value : Int)
    : (Byte.ofInt value).getLsbD index = Bits.bit index value := by
  have low := toNat_ofInt value
  rw [Bits.bit, BitVec.getLsbD, Nat.testBit_eq_decide_div_mod_eq, decide_eq_decide,
    Int.shiftRight_eq_div_pow]
  match index with
  | 0 | 1 | 2 | 3 | 4 | 5 | 6 | 7 => omega

/-- The low sixteen bits of a number are what remains of it modulo 65536. -/
theorem Word.toNat_ofInt (value : Int) : value % 65536 = ((Word.ofInt value).toNat : Int) := by
  rw [Word.ofInt, BitVec.toNat_ofInt]
  omega

/-- An address is what remains of a number modulo 65536. -/
theorem Address.val_ofInt (number : Int) : ((Address.ofInt number).val : Int) = number % 65536 :=
  Int.toNat_of_nonneg (Int.emod_nonneg number (by decide))

namespace Cpu

/-- A number of one byte. -/
def IsByte (number : Int) : Prop := 0 ≤ number ∧ number < 256

theorem isByte_emod (number : Int) : IsByte (number % 256) :=
  ⟨Int.emod_nonneg number (by decide), Int.emod_lt_of_pos number (by decide)⟩

/-- A number of two bytes. -/
def IsWord (number : Int) : Prop := 0 ≤ number ∧ number < 65536

/-- All registers hold numbers of their width. The flags are four truth values in any case. -/
structure Registers.InRange (r : Registers) : Prop where
  a : IsByte r.a
  b : IsByte r.b
  c : IsByte r.c
  d : IsByte r.d
  e : IsByte r.e
  h : IsByte r.h
  l : IsByte r.l
  sp : IsWord r.sp
  pc : IsWord r.pc

/-- The flag register holds a byte whose low four bits are zero. -/
theorem Registers.f_isByte (r : Registers) : IsByte r.f ∧ r.f % 16 = 0 := by
  rw [f, Flags.toInt, IsByte]
  have z := r.flags.z.toNat_le
  have n := r.flags.n.toNat_le
  have h := r.flags.h.toNat_le
  have c := r.flags.c.toNat_le
  omega

theorem Flags.ofInt_toInt (flags : Flags) : Flags.ofInt flags.toInt = flags := by
  obtain ⟨z, n, h, c⟩ := flags
  cases z <;> cases n <;> cases h <;> cases c <;> rfl

/-- What the boot program leaves behind is in range. -/
theorem Registers.powerOn_inRange : Registers.powerOn.InRange := by
  constructor <;> constructor <;> decide

end Cpu

/-- Bits are made again from the number that they hold. -/
theorem Bits.ofInt_toNat {width : Nat} (bits : BitVec width)
    : BitVec.ofInt width bits.toNat = bits := by
  rw [BitVec.ofInt_natCast, BitVec.ofNat_toNat, BitVec.setWidth_eq]

theorem Byte.ofInt_value (byte : Byte) : Byte.ofInt byte.value = byte :=
  Bits.ofInt_toNat byte

theorem Word.ofInt_value (word : Word) : Word.ofInt word.value = word :=
  Bits.ofInt_toNat word

theorem Byte.value_injective {a b : Byte} (same : a.value = b.value) : a = b := by
  rw [← ofInt_value a, same, ofInt_value]

theorem Byte.isByte_value (byte : Byte) : Cpu.IsByte byte.value := by
  have bound := byte.isLt
  rw [Cpu.IsByte, Byte.value]
  omega

theorem Byte.value_emod (byte : Byte) : byte.value % 256 = byte.value :=
  Int.emod_eq_of_lt byte.isByte_value.1 byte.isByte_value.2

end Handheld
