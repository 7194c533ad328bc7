import Handheld.Proofs.Cpu.Cascade
import Handheld.Proofs.Cpu.Chaining
import Handheld.Proofs.Cpu.Numeral
import Handheld.Proofs.Reference.Words

/-! Shifts of numbers of any length by one bit.
The bit that a byte loses goes into the carry flag, and the next byte takes it in from there.
-/

namespace Handheld.Cpu

open Handheld.Cpu.Core Numeral

variable {μ : Type} {bus : Bus μ}

-----------------------------------------------------------------------------------------
-- Places that hold a byte
-----------------------------------------------------------------------------------------

/-- The place that the low three bits of an opcode name. -/
def place (slot : Fin 8) : Operand :=
  Chart.targets.get slot

/-- The opcode by which the extended page rotates or shifts a place. -/
def Rotation.opcode (rotation : Rotation) (slot : Fin 8) : Byte :=
  let row : Nat :=
    match rotation with
    | .rlc => 0x00
    | .rrc => 0x08
    | .rl => 0x10
    | .rr => 0x18
    | .sla => 0x20
    | .sra => 0x28
    | .swap => 0x30
    | .srl => 0x38
  BitVec.ofNat 8 (row + slot)

theorem decodeExtended_opcode (rotation : Rotation) (slot : Fin 8)
    : Chart.decodeExtended (rotation.opcode slot) = .rotate rotation (place slot) := by
  revert slot
  cases rotation <;> decide +kernel

/-- A place is a register, or else the cell at `HL`. -/
theorem place_cases (slot : Fin 8)
    : (∃ register, place slot = .register register) ∨ place slot = .memory .hl := by
  match slot with
  | 0 => exact .inl ⟨.b, rfl⟩
  | 1 => exact .inl ⟨.c, rfl⟩
  | 2 => exact .inl ⟨.d, rfl⟩
  | 3 => exact .inl ⟨.e, rfl⟩
  | 4 => exact .inl ⟨.h, rfl⟩
  | 5 => exact .inl ⟨.l, rfl⟩
  | 6 => exact .inr rfl
  | 7 => exact .inl ⟨.a, rfl⟩

/-- A cell gives back the byte that has been written to it. -/
def Bus.Retains (bus : Bus μ) (address : Int) : Prop :=
  ∀ (byte : Byte) interrupts memory,
    let (interrupts, memory) := bus.write address byte.value interrupts memory
    (bus.read address interrupts memory).1 = byte.value

/-- Every cell of plain memory does. -/
theorem FlatRam.bus_retains (address : Int) : FlatRam.bus.Retains address := by
  intro byte interrupts ram
  have read : FlatRam.get (FlatRam.set ram address (Byte.ofInt byte.value)) address = byte := by
    rw [FlatRam.get_set, if_pos rfl, Byte.ofInt_value]
  exact congrArg Byte.value read

/-- The number in a place, as an instruction finds it there. -/
def Core.content (core : Core μ) (bus : Bus μ) (place : Operand) : Int :=
  ((readOperand bus 0 place).run core).1

theorem get8_set8 (r : Registers) (register : Register8) (value : Int)
    : (r.set8 register value).get8 register = value := by
  cases register <;> rfl

/-- A rotation of a byte leaves the rotated byte, and the bit that falls out as carry. -/
theorem Rotation.apply_byte (rotation : Rotation) (byte : Byte) (r : Registers)
    : (rotation.apply byte.value r).1
          = (Reference.Words.rotated rotation byte r.flags.c).1.value
        ∧ (rotation.apply byte.value r).2.flags.c
          = (Reference.Words.rotated rotation byte r.flags.c).2 := by
  have shifted := Reference.shift_toNat rotation byte r.flags.c
  constructor
  case left => exact congrArg Prod.fst shifted
  case right =>
    have out : (rotation.apply byte.value r).2.flags.c
        = decide ((rotation.shift byte.toNat r.flags.c.toNat).2 ≠ 0) := rfl
    rw [out, shifted, Reference.toNat_ne_zero]

/-- Carries out the opcode of the extended page that rotates a place. -/
def Core.rotate (bus : Bus μ) (rotation : Rotation) (slot : Fin 8) (core : Core μ) : Core μ :=
  core.enact bus [(Chart.decodeExtended (rotation.opcode slot), 0)]

/-- A rotation finds a byte in its place and leaves one there. If the place is a cell, that gives
back what is written to it.
-/
def Shifts (bus : Bus μ) (rotation : Rotation) (given : Byte) (core : Core μ) (made : Byte)
    (after : Core μ) : Prop :=
  ∃ slot, core.content bus (place slot) = given.value
    ∧ (place slot = .memory .hl → bus.Retains (core.cpu.registers.get16 .hl))
    ∧ after = core.rotate bus rotation slot
    ∧ after.content bus (place slot) = made.value

/-- What a place holds after a rotation, and the carry. -/
theorem run_rotate (rotation : Rotation) {slot : Fin 8} {given : Byte} {core : Core μ}
    (content : core.content bus (place slot) = given.value)
    (retains : place slot = .memory .hl → bus.Retains (core.cpu.registers.get16 .hl))
    : (core.rotate bus rotation slot).content bus (place slot)
          = (Reference.Words.rotated rotation given core.carry).1.value
        ∧ (core.rotate bus rotation slot).carry
          = (Reference.Words.rotated rotation given core.carry).2 := by
  have executed : core.rotate bus rotation slot
      = ((execute bus (.rotate rotation (place slot)) 0).run core).2 := by
    rw [← decodeExtended_opcode]
    rfl
  rw [executed]
  obtain ⟨register, named⟩ | cell := place_cases slot
  case inl =>
    rw [named] at content ⊢
    have held : core.cpu.registers.get8 register = given.value := content
    obtain ⟨result, out⟩ := rotation.apply_byte given core.cpu.registers
    have run : ((execute bus (.rotate rotation (.register register)) 0).run core).2.cpu.registers
        = (rotation.apply (core.cpu.registers.get8 register) core.cpu.registers).2.set8 register
            ((rotation.apply (core.cpu.registers.get8 register) core.cpu.registers).1 % 256) := rfl
    rw [held, result, Byte.value_emod] at run
    constructor
    case left => exact (congrArg (·.get8 register) run).trans (get8_set8 _ _ _)
    case right =>
      have flags := congrArg (·.flags.c) run
      rw [set8_flags] at flags
      exact flags.trans out
  case inr =>
    rw [cell] at content ⊢
    have held : ((readByte bus (core.cpu.registers.get16 .hl)).run core).1 = given.value := content
    obtain ⟨result, out⟩ := rotation.apply_byte given core.cpu.registers
    have run : ((execute bus (.rotate rotation (.memory .hl)) 0).run core).2
        = ((write bus (core.cpu.registers.get16 .hl)
            ((rotation.apply ((readByte bus (core.cpu.registers.get16 .hl)).run core).1
              core.cpu.registers).1 % 256)).run
          { ((readByte bus (core.cpu.registers.get16 .hl)).run core).2 with
            cpu.registers := (rotation.apply
              ((readByte bus (core.cpu.registers.get16 .hl)).run core).1
                core.cpu.registers).2 }).2 := rfl
    rw [held, result, Byte.value_emod] at run
    rw [run]
    constructor
    case left =>
      have back := retains cell (Reference.Words.rotated rotation given core.carry).1
      exact (congrArg (· % 256) (back _ _)).trans (Byte.value_emod _)
    case right => exact out

theorem Shifts.rotated {rotation : Rotation} {given made : Byte} {core after : Core μ}
    (shifts : Shifts bus rotation given core made after)
    : made = (Reference.Words.rotated rotation given core.carry).1
        ∧ after.carry = (Reference.Words.rotated rotation given core.carry).2 := by
  obtain ⟨slot, content, retains, moved, found⟩ := shifts
  obtain ⟨result, carry⟩ := run_rotate rotation content retains
  rw [← moved] at result carry
  exact ⟨Byte.value_injective (found.symm.trans result), carry⟩

/-- To load register `B` and rotate it is one way to do it. -/
theorem Shifts.able (bus : Bus μ) (rotation : Rotation) : Able bus (Shifts bus rotation) := by
  intro given core
  let load : Script := [(.load (.register .b) .immediate, given.value)]
  have content : (core.enact bus load).content bus (place 0) = given.value := by
    have loaded : (core.enact bus load).content bus (place 0) = given.value % 256 % 256 := rfl
    rw [loaded, Byte.value_emod, Byte.value_emod]
  have register : place 0 = .memory .hl →
      bus.Retains ((core.enact bus load).cpu.registers.get16 .hl) := fun cell => nomatch cell
  exact ⟨load, _, _, by simp [load, Script.SparesCarry, Instruction.sparesCarry],
    0, content, register, rfl, (run_rotate rotation content register).1⟩

-----------------------------------------------------------------------------------------
-- One byte
-----------------------------------------------------------------------------------------

/-- The bit that a shift takes in. -/
def Rotation.takes (rotation : Rotation) (byte : Byte) (carry : Bool) : Bool :=
  match rotation with
  | .rl | .rr => carry
  | .sra => byte.msb
  | _ => false

/-- What a byte taken twice has above eight bits falls out. -/
theorem rotated_doubles
    : ∀ rotation ∈ [Rotation.rl, .sla], ∀ (byte : Byte) (carry : Bool),
        byte.toNat + byte.toNat + (rotation.takes byte carry).toNat
          = (Reference.Words.rotated rotation byte carry).1.toNat
            + 256 * (Reference.Words.rotated rotation byte carry).2.toNat := by
  decide +kernel

/-- What a byte is more than twice its half falls out. -/
theorem rotated_halves
    : ∀ rotation ∈ [Rotation.rr, .srl, .sra], ∀ (byte : Byte) (carry : Bool),
        (Reference.Words.rotated rotation byte carry).1.toNat
            + (Reference.Words.rotated rotation byte carry).1.toNat
            + (Reference.Words.rotated rotation byte carry).2.toNat
          = byte.toNat + 256 * (rotation.takes byte carry).toNat := by
  decide +kernel

section Digits

variable {rotation : Rotation} {given made : Byte} {core after : Core μ}

theorem Shifts.doubles (shifts : Shifts bus rotation given core made after)
    (up : rotation ∈ [Rotation.rl, .sla])
    : given.toNat + given.toNat + (rotation.takes given core.carry).toNat
      = made.toNat + 256 * after.carry.toNat := by
  obtain ⟨rfl, carry⟩ := shifts.rotated
  rw [carry]
  exact rotated_doubles rotation up given core.carry

theorem Shifts.halves (shifts : Shifts bus rotation given core made after)
    (down : rotation ∈ [Rotation.rr, .srl, .sra])
    : made.toNat + made.toNat + after.carry.toNat
      = given.toNat + 256 * (rotation.takes given core.carry).toNat := by
  obtain ⟨rfl, carry⟩ := shifts.rotated
  rw [carry]
  exact rotated_halves rotation down given core.carry

end Digits

-----------------------------------------------------------------------------------------
-- All bytes
-----------------------------------------------------------------------------------------

/-- A number is shifted from its highest byte downwards, which takes in no carry. Its bytes are
written from the lowest one upwards.
-/
def ShiftsDown (bus : Bus μ) (rotation : Rotation) (x : List Byte) (core : Core μ) (z : List Byte)
    (after : Core μ) : Prop :=
  LedCascade bus (Shifts bus rotation) (Shifts bus .rr) x.reverse core z.reverse after

section Totals

variable {x z : List Byte} {core after : Core μ}

/-- A number is doubled by a chain upwards. -/
theorem doubled_total
    (chain : LedCascade bus (Shifts bus .sla) (Shifts bus .rl) x core z after)
    : binary.value x + binary.value x
      = binary.value z + 256 ^ x.length * after.carry.toNat := by
  have total := chain.rising (b := 256) (p := fun part => part.1.toNat)
    (q := fun part => part.1.toNat) (s := fun part => part.2.toNat)
    (fun leads => leads.doubles (by decide)) (fun works => works.doubles (by decide))
  rwa [map_given chain.length_eq, map_made chain.length_eq] at total

theorem rl_total (chain : Cascade bus (Shifts bus .rl) x core z after)
    : binary.value x + binary.value x + core.carry.toNat
      = binary.value z + 256 ^ x.length * after.carry.toNat := by
  have total := chain.rising (b := 256) (p := fun part => part.1.toNat)
    (q := fun part => part.1.toNat) (s := fun part => part.2.toNat)
    (fun _ _ _ _ _ works => works.doubles (by decide))
  rwa [map_given chain.length_eq, map_made chain.length_eq] at total

theorem map_given_reverse (length : x.reverse.length = z.reverse.length) (f : Byte → Nat)
    : ((x.reverse.zip z.reverse).map fun part => f part.1).reverse = x.map f := by
  rw [map_given length, List.map_reverse, List.reverse_reverse]

theorem map_made_reverse (length : x.reverse.length = z.reverse.length) (f : Byte → Nat)
    : ((x.reverse.zip z.reverse).map fun part => f part.2).reverse = z.map f := by
  rw [map_made length, List.map_reverse, List.reverse_reverse]

theorem rr_total (chain : Cascade bus (Shifts bus .rr) x.reverse core z.reverse after)
    : binary.value z + binary.value z + after.carry.toNat
      = binary.value x + 256 ^ x.length * core.carry.toNat := by
  have total := chain.falling (b := 256) (p := fun part => part.2.toNat)
    (q := fun part => part.2.toNat) (s := fun part => part.1.toNat)
    (fun works => works.halves (by decide))
  rwa [map_given_reverse chain.length_eq, map_made_reverse chain.length_eq,
    List.length_reverse] at total

/-- A number is halved by a chain downwards, with a bit above it that no carry has a part in. -/
theorem halved_total {rotation : Rotation} {low : List Byte} {top : Byte} {above : Bool}
    (down : rotation ∈ [Rotation.rr, .srl, .sra])
    (takes : ∀ carry, rotation.takes top carry = above)
    (chain : ShiftsDown bus rotation (low ++ [top]) core z after)
    : binary.value z + binary.value z + after.carry.toNat
      = binary.value (low ++ [top]) + 256 ^ (low ++ [top]).length * above.toNat := by
  have length := chain.length_eq
  rw [ShiftsDown, List.reverse_concat] at chain
  have start {core after : Core μ} {byte : Byte} (leads : Shifts bus rotation top core byte after)
      : byte.toNat + byte.toNat + after.carry.toNat = top.toNat + 256 * above.toNat :=
    takes core.carry ▸ leads.halves down
  have total := chain.falling (b := 256) (p := fun part => part.2.toNat)
    (q := fun part => part.2.toNat) (s := fun part => part.1.toNat) start
    (fun works => works.halves (by decide))
  rw [← List.reverse_concat] at total
  rwa [map_given_reverse length, map_made_reverse length, List.length_reverse] at total

end Totals

-----------------------------------------------------------------------------------------
-- The bits of a number of many bytes
-----------------------------------------------------------------------------------------

theorem pow_eq_two_pow (n : Nat) : 256 ^ n = 2 ^ (8 * n) := by
  rw [Nat.pow_mul]

theorem pow_eq_two_mul {n : Nat} (positive : 0 < n) : 256 ^ n = 2 * 2 ^ (8 * n - 1) := by
  rw [pow_eq_two_pow, ← Nat.pow_succ']
  congr 1
  omega

/-- The top bit is the one that the double has no place for. -/
theorem testBit_top {number n : Nat} (positive : 0 < n) (bound : number < 256 ^ n)
    : number.testBit (8 * n - 1) = decide (256 ^ n ≤ number + number) := by
  have double := pow_eq_two_mul positive
  by_cases high : 2 ^ (8 * n - 1) ≤ number
  · rw [Nat.testBit_of_two_pow_le_and_two_pow_add_one_gt high (by rw [Nat.pow_succ']; omega),
      decide_eq_true (by omega)]
  · rw [Nat.testBit_lt_two_pow (Nat.lt_of_not_le high), decide_eq_false (by omega)]

theorem binary_value_lt (bytes : List Byte) : binary.value bytes < 256 ^ bytes.length :=
  value_lt (valid_binary bytes)

/-- Of a number of many bytes the sign is that of its top byte. -/
theorem msb_value (low : List Byte) (top : Byte)
    : (BitVec.ofNat (8 * (low ++ [top]).length) (binary.value (low ++ [top]))).msb = top.msb := by
  have lower := binary_value_lt low
  have parts : binary.value (low ++ [top]) = binary.value low + 256 ^ low.length * top.toNat := by
    rw [Numeral.value, List.map_append, Nat.ofDigits_append, List.length_map]
    simp [Numeral.value, binary]
  have half : 2 ^ (8 * (low ++ [top]).length - 1) = 256 ^ low.length * 128 := by
    rw [List.length_append, List.length_singleton, pow_eq_two_pow, Nat.mul_succ]
    exact Nat.pow_add 2 (8 * low.length) 7
  have same : 256 ^ low.length * 128 ≤ binary.value (low ++ [top]) ↔ 128 ≤ top.toNat := by
    rw [parts]
    constructor
    case mp =>
      intro reached
      by_contra small
      have step : 256 ^ low.length * top.toNat ≤ 256 ^ low.length * 127 :=
        Nat.mul_le_mul_left _ (by omega)
      omega
    case mpr =>
      intro reached
      have step := Nat.mul_le_mul_left (256 ^ low.length) reached
      omega
  rw [BitVec.msb_eq_decide, BitVec.msb_eq_decide, BitVec.toNat_ofNat, ← pow_eq_two_pow,
    Nat.mod_eq_of_lt (binary_value_lt _), half]
  exact decide_eq_decide.mpr same

/-- Half a number with its top bit once more above it is the number shifted with its sign. -/
theorem sshiftRight_of_total {width number half : Nat} {out : Bool} (bound : number < 2 ^ width)
    (fits : half < 2 ^ width)
    (total : half + half + out.toNat
      = number + 2 ^ width * (BitVec.ofNat width number).msb.toNat)
    : ((BitVec.ofNat width number).sshiftRight 1).toNat = half := by
  have single := out.toNat_le
  have whole : (BitVec.ofNat width number).toNat = number := by
    rw [BitVec.toNat_ofNat, Nat.mod_eq_of_lt bound]
  cases sign : (BitVec.ofNat width number).msb with
  | false =>
      rw [sign, Bool.toNat_false] at total
      rw [BitVec.sshiftRight_eq_of_msb_false sign, BitVec.toNat_ushiftRight, whole,
        Nat.shiftRight_eq_div_pow]
      omega
  | true =>
      rw [sign, Bool.toNat_true] at total
      rw [BitVec.sshiftRight_eq_of_msb_true sign, BitVec.toNat_not, BitVec.toNat_ushiftRight,
        BitVec.toNat_not, whole, Nat.shiftRight_eq_div_pow]
      omega

-----------------------------------------------------------------------------------------
-- Shifts of all bytes, and back
-----------------------------------------------------------------------------------------

section Chains

variable {x z : List Byte} {core after : Core μ}

theorem doubled (nonempty : x ≠ [])
    (chain : LedCascade bus (Shifts bus .sla) (Shifts bus .rl) x core z after)
    : binary.Writes (2 * binary.value x % 256 ^ x.length) x.length z
        ∧ after.carry = (binary.value x).testBit (8 * x.length - 1) := by
  have total := doubled_total chain
  have fits := binary_value_lt z
  rw [← chain.length_eq] at fits
  constructor
  case left =>
    refine ⟨chain.length_eq.symm, valid_binary z, ?_⟩
    rw [Nat.two_mul, total, Nat.add_mul_mod_self_left, Nat.mod_eq_of_lt fits]
  case right =>
    rw [testBit_top (List.length_pos_iff.mpr nonempty) (binary_value_lt x), total]
    cases carry : after.carry with
    | false => simpa using fits
    | true => simp

/-- What a chain downwards leaves, and the lowest bit as its carry. -/
theorem halved {rotation : Rotation} {low : List Byte} {top : Byte} (above : Bool)
    (down : rotation ∈ [Rotation.rr, .srl, .sra])
    (takes : ∀ carry, rotation.takes top carry = above)
    (chain : ShiftsDown bus rotation (low ++ [top]) core z after)
    : z.length = (low ++ [top]).length
        ∧ after.carry = (binary.value (low ++ [top])).testBit 0
        ∧ binary.value z + binary.value z + after.carry.toNat
          = binary.value (low ++ [top]) + 256 ^ (low ++ [top]).length * above.toNat := by
  have length := chain.length_eq
  have total := halved_total down takes chain
  rw [List.length_reverse, List.length_reverse] at length
  refine ⟨length.symm, ?_, total⟩
  have even : 256 ^ (low ++ [top]).length % 2 = 0 := by
    rw [pow_eq_two_mul (by simp), Nat.mul_mod_right]
  have parity : binary.value (low ++ [top]) % 2 = after.carry.toNat := by
    have single := after.carry.toNat_le
    have low : 256 ^ (low ++ [top]).length * above.toNat % 2 = 0 := by
      rw [Nat.mul_mod, even, Nat.zero_mul, Nat.zero_mod]
    omega
  rw [Nat.testBit_zero, parity]
  cases after.carry <;> rfl

theorem exists_shiftsDown (rotation : Rotation) (nonempty : x ≠ []) (core : Core μ)
    : ∃ z after, ShiftsDown bus rotation x core z after := by
  obtain ⟨made, after, chain⟩ := LedCascade.exists (Shifts.able bus rotation) (Shifts.able bus .rr)
    (fun empty => nonempty (List.reverse_eq_nil_iff.mp empty)) core
  refine ⟨made.reverse, after, ?_⟩
  rwa [ShiftsDown, List.reverse_reverse]

/-- A rotation upwards and one downwards end where they began. -/
theorem restored {middle : Core μ} {y : List Byte}
    (up : Cascade bus (Shifts bus .rl) x core y middle)
    (down : Cascade bus (Shifts bus .rr) y.reverse middle z.reverse after)
    : z = x ∧ after.carry = core.carry := by
  -- Both totals speak of the number between, with the carry between above it.
  have doubled := rl_total up
  have halved := rr_total down
  have length : z.length = x.length := by
    rw [up.length_eq, ← List.length_reverse, ← down.length_eq, List.length_reverse]
  rw [← up.length_eq, ← doubled] at halved
  have carry : after.carry = core.carry := by
    cases first : core.carry <;> cases last : after.carry <;>
      simp only [first, last, Bool.toNat_false, Bool.toNat_true] at halved <;>
      first | rfl | omega
  rw [carry] at halved
  exact ⟨value_inj (valid_binary z) (valid_binary x) length (by omega), carry⟩

end Chains

/-- A number of any number of bytes is shifted by one bit: upwards from its lowest byte, downwards
from its highest, with or without its sign. The carry is the bit that falls out. A rotation through
the carry upwards is undone by one downwards.
-/
theorem long_shift (bus : Bus μ) {x : List Byte} (nonempty : x ≠ []) (core : Core μ)
    : Yields (LedCascade bus (Shifts bus .sla) (Shifts bus .rl) x core)
          (fun z carry => binary.Writes (2 * binary.value x % 256 ^ x.length) x.length z
            ∧ carry = (binary.value x).testBit (8 * x.length - 1))
        ∧ Yields (ShiftsDown bus .srl x core)
          (fun z carry => binary.Writes (binary.value x / 2) x.length z
            ∧ carry = (binary.value x).testBit 0)
        ∧ Yields (ShiftsDown bus .sra x core)
          (fun z carry => binary.Writes
              ((BitVec.ofNat (8 * x.length) (binary.value x)).sshiftRight 1).toNat x.length z
            ∧ carry = (binary.value x).testBit 0)
        ∧ Yields (fun z after => ∃ y middle, Cascade bus (Shifts bus .rl) x core y middle
            ∧ Cascade bus (Shifts bus .rr) y.reverse middle z.reverse after)
          (fun z carry => z = x ∧ carry = core.carry) := by
  have able := Shifts.able bus
  obtain ⟨low, top, rfl⟩ : ∃ low top, x = low ++ [top] :=
    ⟨x.dropLast, x.getLast nonempty, (List.dropLast_append_getLast nonempty).symm⟩
  refine ⟨⟨?upwards, fun z after chain => doubled nonempty chain⟩,
    ⟨exists_shiftsDown .srl nonempty core, fun z after chain => ?halves⟩,
    ⟨exists_shiftsDown .sra nonempty core, fun z after chain => ?signed⟩,
    ⟨?possible, fun z after chain => ?restores⟩⟩
  case upwards => exact LedCascade.exists (able .sla) (able .rl) nonempty core
  case halves =>
    obtain ⟨length, carry, total⟩ := halved false (by decide) (fun _ => rfl) chain
    have single := after.carry.toNat_le
    refine ⟨⟨length, valid_binary z, ?_⟩, carry⟩
    rw [Bool.toNat_false, Nat.mul_zero, Nat.add_zero] at total
    omega
  case signed =>
    obtain ⟨length, carry, total⟩ := halved top.msb (by decide) (fun _ => rfl) chain
    have fits := binary_value_lt z
    have bound := binary_value_lt (low ++ [top])
    rw [pow_eq_two_pow] at fits bound total
    rw [length] at fits
    rw [← msb_value low top] at total
    exact ⟨⟨length, valid_binary z, (sshiftRight_of_total bound fits total).symm⟩, carry⟩
  case possible =>
    obtain ⟨y, middle, up⟩ := Cascade.exists (able .rl) (low ++ [top]) core
    obtain ⟨made, after, down⟩ := Cascade.exists (able .rr) y.reverse middle
    exact ⟨made.reverse, after, y, middle, up, by rwa [List.reverse_reverse]⟩
  case restores =>
    obtain ⟨y, middle, up, down⟩ := chain
    exact restored up down

/-- Two bytes of which both ends are set, shifted in all ways. -/
theorem long_shift_blank
    : let x : List Byte := [0x81, 0x80]
      let shifts := Shifts FlatRam.bus
      x ≠ [] ∧ blank.carry = true ∧ (∀ address, FlatRam.bus.Retains address)
        ∧ Yields (LedCascade FlatRam.bus (shifts .sla) (shifts .rl) x blank)
          (fun z carry => z = [0x02, 0x01] ∧ carry = true)
        ∧ Yields (ShiftsDown FlatRam.bus .srl x blank)
          (fun z carry => z = [0x40, 0x40] ∧ carry = true)
        ∧ Yields (ShiftsDown FlatRam.bus .sra x blank)
          (fun z carry => z = [0x40, 0xC0] ∧ carry = true)
        ∧ Yields (fun z after => ∃ y middle, Cascade FlatRam.bus (shifts .rl) x blank y middle
            ∧ Cascade FlatRam.bus (shifts .rr) y.reverse middle z.reverse after)
          (fun z carry => z = [0x81, 0x80] ∧ carry = true) := by
  intro x shifts
  have nonempty : x ≠ [] := List.cons_ne_nil _ _
  obtain ⟨doubled, halved, signed, restored⟩ := long_shift FlatRam.bus nonempty blank
  refine ⟨nonempty, rfl, FlatRam.bus_retains, doubled.imp fun z carry is => ?_,
    halved.imp fun z carry is => ?_, signed.imp fun z carry is => ?_, restored⟩
  all_goals
    obtain ⟨writes, carry⟩ := is
    exact ⟨writes.unique ⟨rfl, valid_binary _, by decide⟩, carry.trans (by decide)⟩

end Handheld.Cpu
