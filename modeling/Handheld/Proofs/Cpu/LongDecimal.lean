import Handheld.Proofs.Cpu.LongArithmetic

/-! Sums and differences of numbers in packed decimal.
The decimal correction brings what a binary sum or difference has left of two decimal digits to two
decimal digits again, and its carry is that of the decimal numbers.
-/

namespace Handheld.Cpu

open Handheld.Cpu.Core Numeral

variable {μ : Type} {bus : Bus μ}

-----------------------------------------------------------------------------------------
-- Two decimal digits
-----------------------------------------------------------------------------------------

/-- Where a binary sum has to be raised: in its lower digit beyond 9, in its upper one beyond 99. -/
theorem decimal_sum {x y z : Byte} {c low high : Bool} (packedX : IsPacked x)
    (packedY : IsPacked y)
    (lower : low = true ↔ x.value % 16 + y.value % 16 + c.toNat > 9)
    (upper : high = true ↔ x.value + y.value + c.toNat > 0x99)
    (made : (x.value + y.value + c.toNat + ((if low then 6 else 0) + (if high then 0x60 else 0)))
        % 256
      = z.value)
    : IsPacked z
        ∧ decimal.digit x + decimal.digit y + c.toNat = decimal.digit z + 100 * high.toNat := by
  have numbers : x.value = x.toNat ∧ y.value = y.toNat ∧ z.value = z.toNat := ⟨rfl, rfl, rfl⟩
  have single := c.toNat_le
  simp only [IsPacked, decimal] at packedX packedY ⊢
  -- Once it is known which digits are corrected, all is linear.
  cases low <;> cases high
  all_goals
    simp only [Bool.false_eq_true, if_true, if_false, false_iff, true_iff, Bool.toNat_false,
      Bool.toNat_true] at lower upper made ⊢
    omega

/-- Where a binary difference has to be lowered: in each digit that has borrowed. -/
theorem decimal_difference {x y z : Byte} {c low high : Bool} (packedX : IsPacked x)
    (packedY : IsPacked y)
    (lower : low = true ↔ x.value % 16 < y.value % 16 + c.toNat)
    (upper : high = true ↔ x.value < y.value + c.toNat)
    (made : (x.value - y.value - c.toNat - ((if low then 6 else 0) + (if high then 0x60 else 0)))
        % 256
      = z.value)
    : IsPacked z
        ∧ decimal.digit z + decimal.digit y + c.toNat = decimal.digit x + 100 * high.toNat := by
  have numbers : x.value = x.toNat ∧ y.value = y.toNat ∧ z.value = z.toNat := ⟨rfl, rfl, rfl⟩
  have single := c.toNat_le
  simp only [IsPacked, decimal] at packedX packedY ⊢
  cases low <;> cases high
  all_goals
    simp only [Bool.false_eq_true, if_true, if_false, false_iff, true_iff, Bool.toNat_false,
      Bool.toNat_true] at lower upper made ⊢
    omega

section Digits

variable {given : Byte × Byte} {core after : Core μ} {made : Byte}

/-- An addition of packed digits, once it is corrected. -/
theorem Combines.adcDaa (combines : Combines bus .adc [(.daa, 0)] given core made after)
    (packedX : IsPacked given.1) (packedY : IsPacked given.2)
    : IsPacked made
        ∧ decimal.digit given.1 + decimal.digit given.2 + core.carry.toNat
          = decimal.digit made + 100 * after.carry.toNat := by
  obtain ⟨r, middle, a, carry, registers, rfl⟩ := combines.registers
  have bounds := And.intro given.1.isByte_value given.2.isByte_value
  have single := core.carry.toNat_le
  let low := decide (r.a % 16 + given.2.value % 16 + r.flags.c.toNat > 15)
    || decide ((r.a + given.2.value + r.flags.c.toNat) % 256 % 16 > 9)
  let high := decide (r.a + given.2.value + r.flags.c.toNat > 255)
    || decide ((r.a + given.2.value + r.flags.c.toNat) % 256 > 0x99)
  have adjusted : (middle.enact bus [(.daa, 0)]).cpu.registers
      = (Arithmetic.adc.apply given.2.value r).decimalAdjust :=
    congrArg Registers.decimalAdjust registers
  have flagged : (middle.enact bus [(.daa, 0)]).carry = high := congrArg (·.flags.c) adjusted
  have result : ((r.a + given.2.value + r.flags.c.toNat) % 256
      + ((if low then 6 else 0) + (if high then 0x60 else 0))) % 256 = made.value :=
    (congrArg Registers.a adjusted).symm.trans combines.made
  rw [Int.emod_add_emod, a, carry] at result
  refine flagged ▸ decimal_sum packedX packedY ?lower ?upper result
  -- A half carry, or else a digit beyond 9, tells of the sum of the lower digits; likewise above.
  case lower =>
    obtain ⟨⟨-, lowX⟩, ⟨-, lowY⟩⟩ := And.intro packedX packedY
    simp only [low, a, carry, Bool.or_eq_true, decide_eq_true_eq, Byte.value]
    omega
  case upper =>
    obtain ⟨⟨_, _⟩, ⟨_, _⟩⟩ := bounds
    simp only [high, a, carry, Bool.or_eq_true, decide_eq_true_eq]
    omega

/-- A subtraction of packed digits, once it is corrected. -/
theorem Combines.sbcDaa (combines : Combines bus .sbc [(.daa, 0)] given core made after)
    (packedX : IsPacked given.1) (packedY : IsPacked given.2)
    : IsPacked made
        ∧ decimal.digit made + decimal.digit given.2 + core.carry.toNat
          = decimal.digit given.1 + 100 * after.carry.toNat := by
  obtain ⟨r, middle, a, carry, registers, rfl⟩ := combines.registers
  let low := decide (r.a % 16 < given.2.value % 16 + r.flags.c.toNat)
  let high := decide (r.a < given.2.value + r.flags.c.toNat)
  have adjusted : (middle.enact bus [(.daa, 0)]).cpu.registers
      = (Arithmetic.sbc.apply given.2.value r).decimalAdjust :=
    congrArg Registers.decimalAdjust registers
  have flagged : (middle.enact bus [(.daa, 0)]).carry = high := congrArg (·.flags.c) adjusted
  have result : ((r.a - given.2.value - r.flags.c.toNat) % 256
      - ((if low then 6 else 0) + (if high then 0x60 else 0))) % 256 = made.value :=
    (congrArg Registers.a adjusted).symm.trans combines.made
  rw [Int.emod_sub_emod, a, carry] at result
  refine flagged ▸ decimal_difference packedX packedY ?lower ?upper result
  case lower => rw [decide_eq_true_eq, a, carry]
  case upper => rw [decide_eq_true_eq, a, carry]

end Digits

/-- Behind any operation the decimal correction leaves a byte in the accumulator. -/
theorem enact_daa_isByte (operation : Arithmetic) (immediate : Int) (core : Core μ)
    : IsByte (core.enact bus
        [(.arithmetic operation .immediate, immediate), (.daa, 0)]).cpu.registers.a := by
  have adjusted (r : Registers) : IsByte r.decimalAdjust.a := by
    cases subtracted : r.flags.n with
    | true =>
        simp only [Registers.decimalAdjust, subtracted, if_true]
        exact isByte_emod _
    | false =>
        simp only [Registers.decimalAdjust, subtracted, Bool.false_eq_true, if_false]
        exact isByte_emod _
  exact adjusted _

/-- Sums and differences of packed decimal numbers of equally many bytes come out right, corrected
byte after byte from the lowest one upwards, and so does the carry.
-/
theorem long_decimal (bus : Bus μ) {x y : List Byte} (paired : x.length = y.length)
    (validX : decimal.Valid x) (validY : decimal.Valid y) (core : Core μ)
    : Yields (Cascade bus (Combines bus .adc [(.daa, 0)]) (x.zip y) core)
          (decimal.IsSum x y core.carry)
        ∧ Yields (Cascade bus (Combines bus .sbc [(.daa, 0)]) (x.zip y) core)
          (decimal.IsDifference x y core.carry) := by
  have packed : ∀ part ∈ x.zip y, IsPacked part.1 ∧ IsPacked part.2 := fun part inside =>
    ⟨validX part.1 (List.of_mem_zip inside).1, validY part.2 (List.of_mem_zip inside).2⟩
  constructor
  case left =>
    refine ⟨Cascade.exists (Combines.able (enact_daa_isByte .adc)) _ core, fun z after chain => ?_⟩
    have digits := chain.forall_made (P := IsPacked) fun part inside _ _ _ works =>
      (works.adcDaa (packed part inside).1 (packed part inside).2).1
    exact isSum_of_columns core.carry paired chain.length_eq digits
      (chain.rising fun part inside _ _ _ works =>
        (works.adcDaa (packed part inside).1 (packed part inside).2).2)
  case right =>
    refine ⟨Cascade.exists (Combines.able (enact_daa_isByte .sbc)) _ core, fun z after chain => ?_⟩
    have digits := chain.forall_made (P := IsPacked) fun part inside _ _ _ works =>
      (works.sbcDaa (packed part inside).1 (packed part inside).2).1
    exact isDifference_of_columns core.carry paired chain.length_eq digits
      (chain.rising fun part inside _ _ _ works =>
        (works.sbcDaa (packed part inside).1 (packed part inside).2).2)

/-- With a carry at first, 1 and 999 add up to 1001, and 999 from 1 leave 999001 with a borrow. -/
theorem long_decimal_blank
    : let x : List Byte := [0x01, 0x00, 0x00]
      let y : List Byte := [0x99, 0x09, 0x00]
      let combines := Combines FlatRam.bus
      x.length = y.length ∧ decimal.Valid x ∧ decimal.Valid y ∧ blank.carry = true
        ∧ Yields (Cascade FlatRam.bus (combines .adc [(.daa, 0)]) (x.zip y) blank)
          (fun z carry => z = [0x01, 0x10, 0x00] ∧ carry = false)
        ∧ Yields (Cascade FlatRam.bus (combines .sbc [(.daa, 0)]) (x.zip y) blank)
          (fun z carry => z = [0x01, 0x90, 0x99] ∧ carry = true) := by
  intro x y combines
  have packed (bytes : List Byte)
      (digits : ∀ byte ∈ bytes, byte.toNat / 16 < 10 ∧ byte.toNat % 16 < 10)
      : decimal.Valid bytes := digits
  have validX : decimal.Valid x := packed x (by decide)
  have validY : decimal.Valid y := packed y (by decide)
  obtain ⟨sums, differences⟩ := long_decimal FlatRam.bus (x := x) (y := y) rfl validX validY blank
  refine ⟨rfl, validX, validY, rfl, sums.imp fun z carry is => ?_,
    differences.imp fun z carry is => ?_⟩
  case refine_1 =>
    exact ⟨is.writes.unique ⟨rfl, packed _ (by decide), by decide⟩,
      Bool.eq_false_iff.mpr (is.carry.not.mpr (by decide))⟩
  case refine_2 =>
    exact ⟨is.writes.unique ⟨rfl, packed _ (by decide), by decide⟩, is.carry.mpr (by decide)⟩

end Handheld.Cpu
