import Handheld.Proofs.Cpu.Cascade
import Handheld.Proofs.Cpu.Numeral

/-! Sums and differences of numbers of any length.
The accumulator takes in one byte of the first number, is combined with the byte of the second, and
gives the byte of the result.
-/

namespace Handheld.Cpu

open Handheld.Cpu.Core Numeral

variable {μ : Type} {bus : Bus μ} {operation plain carried : Arithmetic} {finish : Script}
  {given : Byte × Byte} {core after : Core μ} {made : Byte}

-----------------------------------------------------------------------------------------
-- One byte in the accumulator
-----------------------------------------------------------------------------------------

/-- The accumulator holds one byte and an operand the other. The operation on them, and what
finishes it, leave a byte in the accumulator.
-/
structure Combines (bus : Bus μ) (operation : Arithmetic) (finish : Script) (given : Byte × Byte)
    (core : Core μ) (made : Byte) (after : Core μ) : Prop where
  accumulator : core.cpu.registers.a = given.1.value
  performed : ∃ source immediate,
    ((readOperand bus immediate source).run core).1 = given.2.value
      ∧ after = core.enact bus ((.arithmetic operation source, immediate) :: finish)
  made : after.cpu.registers.a = made.value

/-- An operation on the accumulator finds it, and the flags, as they have been. -/
theorem Combines.registers (combines : Combines bus operation finish given core made after)
    : ∃ (r : Registers) (middle : Core μ), r.a = given.1.value ∧ r.flags.c = core.carry
        ∧ middle.cpu.registers = operation.apply given.2.value r
        ∧ after = middle.enact bus finish := by
  obtain ⟨source, immediate, operand, rfl⟩ := combines.performed
  refine ⟨((readOperand bus immediate source).run core).2.cpu.registers,
    ((execute bus (.arithmetic operation source) immediate).run core).2,
    ?accumulator, ?carry, ?result, rfl⟩
  case accumulator =>
    rw [← combines.accumulator]
    exact readOperand_registers Registers.a (fun _ _ => rfl) immediate source core
  case carry => exact readOperand_carry immediate source core
  case result =>
    rw [← operand]
    rfl

/-- To load the accumulator, with the other byte as an immediate, is one way to do it. -/
theorem Combines.able
    (whole : ∀ (immediate : Int) (core : Core μ),
      IsByte (core.enact bus
        ((.arithmetic operation .immediate, immediate) :: finish)).cpu.registers.a)
    : Able bus (Combines bus operation finish) := by
  intro given core
  let load : Script := [(.load (.register .a) .immediate, given.1.value)]
  let perform : Script := (.arithmetic operation .immediate, given.2.value) :: finish
  let after := (core.enact bus load).enact bus perform
  refine ⟨load, Byte.ofInt after.cpu.registers.a, after, ?spares, ?accumulator, ?performed, ?made⟩
  case spares => simp [load, Script.SparesCarry, Instruction.sparesCarry]
  case accumulator =>
    have loaded : (core.enact bus load).cpu.registers.a = given.1.value % 256 % 256 := rfl
    rw [loaded, Byte.value_emod, Byte.value_emod]
  case performed => exact ⟨.immediate, given.2.value, given.2.value_emod, rfl⟩
  case made =>
    obtain ⟨lower, upper⟩ := whole given.2.value (core.enact bus load)
    exact (Int.emod_eq_of_lt lower upper).symm.trans (Byte.toNat_ofInt _)

-----------------------------------------------------------------------------------------
-- One digit to the base 256
-----------------------------------------------------------------------------------------

/-- What a sum has above eight bits is its carry. -/
theorem sum_digit (x y z : Byte) (c : Bool)
    (made : (x.value + y.value + c.toNat) % 256 = z.value)
    : x.toNat + y.toNat + c.toNat
      = z.toNat + 256 * (decide (x.value + y.value + c.toNat > 255)).toNat := by
  have numbers : x.value = x.toNat ∧ y.value = y.toNat ∧ z.value = z.toNat := ⟨rfl, rfl, rfl⟩
  have bounds := And.intro x.isLt (And.intro y.isLt c.toNat_le)
  by_cases flagged : x.value + y.value + c.toNat > 255
  · rw [decide_eq_true flagged, Bool.toNat_true]
    omega
  · rw [decide_eq_false flagged, Bool.toNat_false]
    omega

/-- What is missing to a difference is borrowed. -/
theorem difference_digit (x y z : Byte) (c : Bool)
    (made : (x.value - y.value - c.toNat) % 256 = z.value)
    : z.toNat + y.toNat + c.toNat
      = x.toNat + 256 * (decide (x.value < y.value + c.toNat)).toNat := by
  have numbers : x.value = x.toNat ∧ y.value = y.toNat ∧ z.value = z.toNat := ⟨rfl, rfl, rfl⟩
  have bounds := And.intro x.isLt (And.intro y.isLt c.toNat_le)
  by_cases borrowed : x.value < y.value + c.toNat
  · rw [decide_eq_true borrowed, Bool.toNat_true]
    omega
  · rw [decide_eq_false borrowed, Bool.toNat_false]
    omega

theorem Combines.adc (combines : Combines bus .adc [] given core made after)
    : given.1.toNat + given.2.toNat + core.carry.toNat = made.toNat + 256 * after.carry.toNat := by
  obtain ⟨r, after, a, carry, registers, rfl⟩ := combines.registers
  have result : (r.a + given.2.value + r.flags.c.toNat) % 256 = made.value :=
    (congrArg Registers.a registers).symm.trans combines.made
  have flagged : after.carry = decide (r.a + given.2.value + r.flags.c.toNat > 255) :=
    congrArg (·.flags.c) registers
  rw [a, carry] at result flagged
  exact flagged ▸ sum_digit _ _ _ _ result

theorem Combines.sbc (combines : Combines bus .sbc [] given core made after)
    : made.toNat + given.2.toNat + core.carry.toNat = given.1.toNat + 256 * after.carry.toNat := by
  obtain ⟨r, after, a, carry, registers, rfl⟩ := combines.registers
  have result : (r.a - given.2.value - r.flags.c.toNat) % 256 = made.value :=
    (congrArg Registers.a registers).symm.trans combines.made
  have flagged : after.carry = decide (r.a < given.2.value + r.flags.c.toNat) :=
    congrArg (·.flags.c) registers
  rw [a, carry] at result flagged
  exact flagged ▸ difference_digit _ _ _ _ result

-----------------------------------------------------------------------------------------
-- Operations that take in no carry
-----------------------------------------------------------------------------------------

/-- The same processor without a carry. -/
def Core.uncarried (core : Core μ) : Core μ :=
  { core with cpu.registers.flags.c := false }

theorem run_readOperand_uncarried (immediate : Int) (source : Operand) (core : Core μ)
    : (readOperand bus immediate source).run core.uncarried
      = (((readOperand bus immediate source).run core).1,
          ((readOperand bus immediate source).run core).2.uncarried) := by
  cases source with
  | memory pointer => cases pointer <;> rfl
  | _ => rfl

/-- An operation works as another one does without a carry. -/
def Arithmetic.IsUncarried (plain carried : Arithmetic) : Prop :=
  ∀ value r, plain.apply value r = carried.apply value { r with flags.c := false }

theorem Arithmetic.add_isUncarried : IsUncarried .add .adc := by
  intro value r
  have taken : Arithmetic.adc.apply value { r with flags.c := false }
      = { r.setFlags {
            z := (r.a + value + false.toNat) % 256 = 0, n := false
            h := r.a % 16 + value % 16 + false.toNat > 15, c := r.a + value + false.toNat > 255 }
          with a := (r.a + value + false.toNat) % 256 } := rfl
  simp only [Bool.toNat_false, Int.natCast_zero, Int.add_zero] at taken
  exact taken.symm

theorem Arithmetic.sub_isUncarried : IsUncarried .sub .sbc := by
  intro value r
  have taken : Arithmetic.sbc.apply value { r with flags.c := false }
      = { r.setFlags {
            z := (r.a - value - false.toNat) % 256 = 0, n := true
            h := r.a % 16 < value % 16 + false.toNat, c := r.a < value + false.toNat }
          with a := (r.a - value - false.toNat) % 256 } := rfl
  simp only [Bool.toNat_false, Int.natCast_zero, Int.add_zero, Int.sub_zero] at taken
  exact taken.symm

/-- It does so on the whole processor. -/
theorem Arithmetic.IsUncarried.run (same : plain.IsUncarried carried) (bus : Bus μ)
    (source : Operand) (immediate : Int) (core : Core μ)
    : (execute bus (.arithmetic plain source) immediate).run core
      = (execute bus (.arithmetic carried source) immediate).run core.uncarried := by
  have body (operation : Arithmetic) (core : Core μ)
      : (execute bus (.arithmetic operation source) immediate).run core
        = (false,
            ((onRegisters (operation.apply ((readOperand bus immediate source).run core).1)).run
              ((readOperand bus immediate source).run core).2).2) := rfl
  rw [body, body, run_readOperand_uncarried, funext (same _)]
  rfl

/-- A comparison is a subtraction that keeps the accumulator. -/
theorem run_cp (bus : Bus μ) (source : Operand) (immediate : Int) (core : Core μ)
    : ((execute bus (.arithmetic .cp source) immediate).run core).2
      = { ((execute bus (.arithmetic .sub source) immediate).run core).2 with
          cpu.registers.a := core.cpu.registers.a } := by
  have kept : ((readOperand bus immediate source).run core).2.cpu.registers.a
      = core.cpu.registers.a :=
    readOperand_registers Registers.a (fun _ _ => rfl) immediate source core
  rw [← kept]
  rfl

theorem Combines.uncarried (same : plain.IsUncarried carried)
    (combines : Combines bus plain finish given core made after)
    : Combines bus carried finish given core.uncarried made after := by
  obtain ⟨accumulator, ⟨source, immediate, operand, rfl⟩, made⟩ := combines
  refine ⟨accumulator, ⟨source, immediate, ?_, ?_⟩, made⟩
  · rw [run_readOperand_uncarried, operand]
  · exact congrArg (fun run => enact bus finish run.2) (same.run bus source immediate core)

-----------------------------------------------------------------------------------------
-- All bytes
-----------------------------------------------------------------------------------------

section Columns

variable {numeral : Numeral} {x y z : List Byte} {carryOut : Bool}

theorem map_first (paired : x.length = y.length) (length : (x.zip y).length = z.length)
    (f : Byte → Nat)
    : ((x.zip y).zip z).map (fun column => f column.1.1) = x.map f := by
  rw [map_given length fun part => f part.1, map_given paired]

theorem map_second (paired : x.length = y.length) (length : (x.zip y).length = z.length)
    (f : Byte → Nat)
    : ((x.zip y).zip z).map (fun column => f column.1.2) = y.map f := by
  rw [map_given length fun part => f part.2, map_made paired]

theorem length_zip_of_paired (paired : x.length = y.length) : (x.zip y).length = x.length := by
  rw [List.length_zip, ← paired, Nat.min_self]

/-- Digits that add up, column by column, are those of a sum. -/
theorem isSum_of_columns (carryIn : Bool) (paired : x.length = y.length)
    (length : (x.zip y).length = z.length) (valid : numeral.Valid z)
    (total : Nat.ofDigits numeral.base
          (((x.zip y).zip z).map fun column => numeral.digit column.1.1)
        + Nat.ofDigits numeral.base
          (((x.zip y).zip z).map fun column => numeral.digit column.1.2) + carryIn.toNat
      = Nat.ofDigits numeral.base (((x.zip y).zip z).map fun column => numeral.digit column.2)
        + numeral.base ^ (x.zip y).length * carryOut.toNat)
    : numeral.IsSum x y carryIn z carryOut := by
  rw [map_first paired length, map_second paired length, map_made length,
    length_zip_of_paired paired] at total
  exact .of_total (length.symm.trans (length_zip_of_paired paired)) valid total

/-- Digits of which two add up to the third, column by column, are those of a difference. -/
theorem isDifference_of_columns (carryIn : Bool) (paired : x.length = y.length)
    (length : (x.zip y).length = z.length) (valid : numeral.Valid z)
    (total : Nat.ofDigits numeral.base (((x.zip y).zip z).map fun column => numeral.digit column.2)
        + Nat.ofDigits numeral.base
          (((x.zip y).zip z).map fun column => numeral.digit column.1.2) + carryIn.toNat
      = Nat.ofDigits numeral.base
          (((x.zip y).zip z).map fun column => numeral.digit column.1.1)
        + numeral.base ^ (x.zip y).length * carryOut.toNat)
    : numeral.IsDifference x y carryIn z carryOut := by
  rw [map_first paired length, map_second paired length, map_made length,
    length_zip_of_paired paired] at total
  exact .of_total (length.symm.trans (length_zip_of_paired paired)) valid total

end Columns

/-- In the accumulator every operation leaves a byte. -/
theorem enact_arithmetic_isByte
    (modular : ∀ value r, ∃ number, (operation.apply value r).a = number % 256)
    (immediate : Int) (core : Core μ)
    : IsByte (core.enact bus [(.arithmetic operation .immediate, immediate)]).cpu.registers.a := by
  obtain ⟨number, result⟩ := modular (immediate % 256) core.cpu.registers
  have made : (core.enact bus [(.arithmetic operation .immediate, immediate)]).cpu.registers.a
      = (operation.apply (immediate % 256) core.cpu.registers).a := rfl
  rw [made, result]
  exact isByte_emod number

/-- Sums and differences of any two numbers of equally many bytes come out right, byte after byte
from the lowest one upwards, and so does the carry. Without a carry for the lowest byte it is as if
there had been none. A comparison leaves all as a subtraction does, but for the accumulator.
-/
theorem long_arithmetic (bus : Bus μ) {x y : List Byte} (paired : x.length = y.length)
    (core : Core μ)
    : Yields (Cascade bus (Combines bus .adc []) (x.zip y) core) (binary.IsSum x y core.carry)
        ∧ Yields (Cascade bus (Combines bus .sbc []) (x.zip y) core)
          (binary.IsDifference x y core.carry)
        ∧ (x ≠ [] →
          Yields (LedCascade bus (Combines bus .add []) (Combines bus .adc []) (x.zip y) core)
              (binary.IsSum x y false)
            ∧ Yields (LedCascade bus (Combines bus .sub []) (Combines bus .sbc []) (x.zip y) core)
              (binary.IsDifference x y false))
        ∧ ∀ source immediate,
          ((execute bus (.arithmetic .cp source) immediate).run core).2
            = { ((execute bus (.arithmetic .sub source) immediate).run core).2 with
                cpu.registers.a := core.cpu.registers.a } := by
  have add : Able bus (Combines bus .add []) :=
    Combines.able (enact_arithmetic_isByte fun _ _ => ⟨_, rfl⟩)
  have adc : Able bus (Combines bus .adc []) :=
    Combines.able (enact_arithmetic_isByte fun _ _ => ⟨_, rfl⟩)
  have sub : Able bus (Combines bus .sub []) :=
    Combines.able (enact_arithmetic_isByte fun _ _ => ⟨_, rfl⟩)
  have sbc : Able bus (Combines bus .sbc []) :=
    Combines.able (enact_arithmetic_isByte fun _ _ => ⟨_, rfl⟩)
  refine ⟨?sums, ?differences, ?led,
    fun source immediate => run_cp bus source immediate core⟩
  case sums =>
    refine ⟨Cascade.exists adc _ core, fun z after chain => ?_⟩
    exact isSum_of_columns core.carry paired chain.length_eq (valid_binary z)
      (chain.rising fun _ _ => Combines.adc)
  case differences =>
    refine ⟨Cascade.exists sbc _ core, fun z after chain => ?_⟩
    exact isDifference_of_columns core.carry paired chain.length_eq (valid_binary z)
      (chain.rising fun _ _ => Combines.sbc)
  case led =>
    intro nonempty
    have some : x.zip y ≠ [] := by
      intro empty
      have none : x.length = 0 := by
        rw [← length_zip_of_paired paired, empty, List.length_nil]
      exact nonempty (List.length_eq_zero_iff.mp none)
    refine ⟨⟨LedCascade.exists add adc some core, fun z after chain => ?sums⟩,
      ⟨LedCascade.exists sub sbc some core, fun z after chain => ?differences⟩⟩
    case sums =>
      exact isSum_of_columns false paired chain.length_eq (valid_binary z)
        (chain.rising (fun leads => (leads.uncarried Arithmetic.add_isUncarried).adc) Combines.adc)
    case differences =>
      exact isDifference_of_columns false paired chain.length_eq (valid_binary z)
        (chain.rising (fun leads => (leads.uncarried Arithmetic.sub_isUncarried).sbc) Combines.sbc)

/-- With a carry at first, `0x00FF` and `0x01FF` add up to `0x02FF`. -/
theorem long_arithmetic_blank
    : let x : List Byte := [0xFF, 0x00]
      let y : List Byte := [0xFF, 0x01]
      let combines := Combines FlatRam.bus
      x.length = y.length ∧ x ≠ [] ∧ blank.carry = true
        ∧ Yields (Cascade FlatRam.bus (combines .adc []) (x.zip y) blank)
          (fun z carry => z = [0xFF, 0x02] ∧ carry = false)
        ∧ Yields (Cascade FlatRam.bus (combines .sbc []) (x.zip y) blank)
          (fun z carry => z = [0xFF, 0xFE] ∧ carry = true)
        ∧ Yields (LedCascade FlatRam.bus (combines .add []) (combines .adc []) (x.zip y) blank)
          (fun z carry => z = [0xFE, 0x02] ∧ carry = false)
        ∧ Yields (LedCascade FlatRam.bus (combines .sub []) (combines .sbc []) (x.zip y) blank)
          (fun z carry => z = [0x00, 0xFF] ∧ carry = true) := by
  intro x y combines
  have nonempty : x ≠ [] := List.cons_ne_nil _ _
  obtain ⟨sums, differences, led, -⟩ := long_arithmetic FlatRam.bus (x := x) (y := y) rfl blank
  obtain ⟨ledSums, ledDifferences⟩ := led nonempty
  refine ⟨rfl, nonempty, rfl, sums.imp fun z carry is => ?_, differences.imp fun z carry is => ?_,
    ledSums.imp fun z carry is => ?_, ledDifferences.imp fun z carry is => ?_⟩
  case refine_1 =>
    exact ⟨is.writes.unique ⟨rfl, valid_binary _, by decide⟩,
      Bool.eq_false_iff.mpr (is.carry.not.mpr (by decide))⟩
  case refine_2 =>
    exact ⟨is.writes.unique ⟨rfl, valid_binary _, by decide⟩, is.carry.mpr (by decide)⟩
  case refine_3 =>
    exact ⟨is.writes.unique ⟨rfl, valid_binary _, by decide⟩,
      Bool.eq_false_iff.mpr (is.carry.not.mpr (by decide))⟩
  case refine_4 =>
    exact ⟨is.writes.unique ⟨rfl, valid_binary _, by decide⟩, is.carry.mpr (by decide)⟩

end Handheld.Cpu
