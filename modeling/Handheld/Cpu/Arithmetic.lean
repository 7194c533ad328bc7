import Handheld.Cpu.Instruction

/-!
Arithmetic on the register file: the accumulator operations, rotations and shifts, decimal
adjustment and the 16-bit additions, with the flags each of them leaves.
-/

namespace Handheld.Cpu

private def carryIn (registers : Registers) : Int :=
  registers.flags.c.toNat

/-- Performs an accumulator operation. A comparison is a subtraction that keeps its operand. -/
def Arithmetic.apply (operation : Arithmetic) (value : Int) (registers : Registers) : Registers :=
  let a := registers.a
  let carry := carryIn registers
  match operation with
  | .add =>
    let result := a + value
    let flagged := registers.setFlags {
      z := result % 256 = 0, n := false, h := a % 16 + value % 16 > 15, c := result > 255 }
    { flagged with a := result % 256 }
  | .adc =>
    let result := a + value + carry
    let flagged := registers.setFlags {
      z := result % 256 = 0, n := false
      h := a % 16 + value % 16 + carry > 15, c := result > 255 }
    { flagged with a := result % 256 }
  | .sub =>
    let result := a - value
    let flagged := registers.setFlags {
      z := result % 256 = 0, n := true, h := a % 16 < value % 16, c := a < value }
    { flagged with a := result % 256 }
  | .cp =>
    registers.setFlags {
      z := (a - value) % 256 = 0, n := true, h := a % 16 < value % 16, c := a < value }
  | .sbc =>
    let result := a - value - carry
    let flagged := registers.setFlags {
      z := result % 256 = 0, n := true
      h := a % 16 < value % 16 + carry, c := a < value + carry }
    { flagged with a := result % 256 }
  | .and =>
    let result := Bits.land a value
    { registers.setFlags { z := result = 0, n := false, h := true, c := false } with a := result }
  | .xor =>
    let result := Bits.lxor a value % 256
    { registers.setFlags { z := result = 0, n := false, h := false, c := false } with a := result }
  | .or =>
    let result := Bits.lor a value % 256
    { registers.setFlags { z := result = 0, n := false, h := false, c := false } with a := result }

/-- The result of a rotation or shift and the bits that fall out of it, given the old carry. -/
def Rotation.shift (operation : Rotation) (value carry : Int) : Int × Int :=
  match operation with
  | .rlc => (Bits.lor (value * 2) (value / 128) % 256, value / 128)
  | .rrc => (Bits.lor (value / 2) (value % 2 * 128), value % 2)
  | .rl => (Bits.lor (value * 2) carry % 256, value / 128)
  | .rr => (Bits.lor (value / 2) (carry * 128), value % 2)
  | .sla => (value * 2 % 256, value / 128)
  | .sra => (Bits.lor (value / 2) (value / 128 % 2 * 128), value % 2)
  | .swap => (Bits.lor (value * 16) (value / 16) % 256, 0)
  | .srl => (value / 2, value % 2)

/-- Rotates or shifts a value, leaving the flags in the register file. -/
def Rotation.apply (operation : Rotation) (value : Int) (registers : Registers)
    : Int × Registers :=
  let (result, out) := operation.shift value (carryIn registers)
  (result, registers.setFlags { z := result = 0, n := false, h := false, c := out ≠ 0 })

namespace Registers

/-- Rotates the accumulator; unlike the general rotations this always clears the zero flag. -/
def rotateA (operation : Rotation) (registers : Registers) : Registers :=
  let (result, rotated) := operation.apply registers.a registers
  { rotated with a := result, flags := { rotated.flags with z := false } }

/-- The flags after a value has been incremented. Carry is kept. -/
def flagIncrement (value result : Int) (registers : Registers) : Registers :=
  registers.setFlags { registers.flags with z := result = 0, n := false, h := value % 16 = 15 }

/-- The flags after a value has been decremented. Carry is kept. -/
def flagDecrement (value result : Int) (registers : Registers) : Registers :=
  registers.setFlags { registers.flags with z := result = 0, n := true, h := value % 16 = 0 }

/-- Adds a 16-bit register to `HL`. The zero flag is kept. -/
def addHl (source : Register16) (registers : Registers) : Registers :=
  let hl := registers.get16 .hl
  let value := registers.get16 source
  let result := hl + value
  let flagged := registers.setFlags { registers.flags with
    n := false, h := hl % 4096 + value % 4096 > 4095, c := result > 65535 }
  flagged.set16 .hl (result % 65536)

/-- The stack pointer plus a signed byte. The flags come from adding the low bytes unsigned. -/
def spPlus (offset : Int) (registers : Registers) : Int × Registers :=
  let sp := registers.sp
  let flagged := registers.setFlags {
    z := false, n := false
    h := sp % 16 + offset % 16 > 15, c := sp % 256 + offset % 256 > 255 }
  ((sp + Bits.signed offset) % 65536, flagged)

/-- Adjusts the accumulator after an addition or subtraction of packed decimal digits. -/
def decimalAdjust (registers : Registers) : Registers :=
  let a := registers.a
  let flags := registers.flags
  let (result, carry) :=
    if flags.n then
      let low : Int := if flags.h then 6 else 0
      let high : Int := if flags.c then 0x60 else 0
      ((a - (low + high)) % 256, flags.c)
    else
      let carry : Bool := flags.c || a > 0x99
      let low : Int := if flags.h || a % 16 > 9 then 6 else 0
      let high : Int := if carry then 0x60 else 0
      ((a + (low + high)) % 256, carry)
  { registers.setFlags { flags with z := result = 0, h := false, c := carry } with a := result }

/-- Inverts the low byte of the accumulator. -/
def complement (registers : Registers) : Registers :=
  { registers.setFlags { registers.flags with n := true, h := true } with
    a := Bits.lxor registers.a 0xFF }

/-- Sets the carry flag to a given state and clears the two flags beside it. -/
def setCarry (carry : Bool) (registers : Registers) : Registers :=
  registers.setFlags { registers.flags with n := false, h := false, c := carry }

end Registers

end Handheld.Cpu
