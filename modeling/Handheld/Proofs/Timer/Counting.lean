import Handheld.Proofs.Console.WellFormed

/-! How a timer counts.
Cycles that pass leave less than a period in the prescaler, and it makes no difference whether they
pass at once or in parts.
-/

namespace Handheld.Timer

-----------------------------------------------------------------------------------------
-- The phase
-----------------------------------------------------------------------------------------

variable {t u : Timer}

theorem period_pos (t : Timer) : 0 < t.period := by
  rw [period]
  split <;> decide

theorem period_eq (rate : u.tac.toNat % 4 = t.tac.toNat % 4) : u.period = t.period := by
  rw [period, period, rate]

/-- The phase is a matter of the prescaler and of the two bits that select the rate. -/
theorem InPhase.of_sameRate (inPhase : t.InPhase) (rate : u.tac.toNat % 4 = t.tac.toNat % 4)
    (prescaler : u.prescaler = t.prescaler)
    : u.InPhase := by
  rw [InPhase, period_eq rate, prescaler]
  exact inPhase

/-- A timer that has just started to count is in phase at any rate. -/
theorem inPhase_of_zero (zero : t.prescaler = 0) : t.InPhase := by
  have positive := t.period_pos
  rw [InPhase, zero]
  omega

/-- A write keeps the prescaler at the rate that it was counted at, or starts it again. -/
theorem InPhase.set (inPhase : t.InPhase) (register : Register) (value : Byte)
    : (t.set register value).InPhase := by
  cases register with
  | div => exact inPhase_of_zero rfl
  | tima | tma => exact inPhase.of_sameRate rfl rfl
  | tac =>
      rw [Timer.set]
      by_cases same : (value.setWidth 3).toNat % 4 = t.tac.toNat % 4
      · exact inPhase.of_sameRate same (if_pos same)
      · exact inPhase_of_zero (if_neg same)

-----------------------------------------------------------------------------------------
-- Cycles that pass
-----------------------------------------------------------------------------------------

/-- Both counts of cycles are set. -/
def recount (divider : Word) (prescaler : Int) (state : Timer × Interrupts)
    : Timer × Interrupts :=
  ({ state.1 with divider, prescaler }, state.2)

theorem increment_recount (divider : Word) (prescaler : Int) (state : Timer × Interrupts)
    : increment (recount divider prescaler state)
      = recount divider prescaler (increment state) := by
  obtain ⟨timer, interrupts⟩ := state
  by_cases full : timer.tima = 0xFF <;> simp only [increment, recount, full, ↓reduceIte]

theorem increments_recount (count : Nat) (divider : Word) (prescaler : Int)
    (state : Timer × Interrupts)
    : increments count (recount divider prescaler state)
      = recount divider prescaler (increments count state) := by
  induction count generalizing state with
  | zero => rfl
  | succ count ih => rw [increments, increments, increment_recount, ih]

/-- The divider counts the cycles that pass, whether the counter runs or not. -/
theorem tick_divider (t : Timer) (cycles : Int) (interrupts : Interrupts)
    : (t.tick cycles interrupts).1.divider = Word.ofInt (t.divider.value + cycles) := by
  rw [tick]
  split
  · exact congrArg (·.1.divider) (increments_recount _ _ _ (t, interrupts))
  · rfl

theorem increments_tac (count : Nat) (state : Timer × Interrupts)
    : (increments count state).1.tac = state.1.tac := by
  induction count generalizing state with
  | zero => rfl
  | succ count ih =>
      have once : (increment state).1.tac = state.1.tac := by
        rw [increment]
        split <;> rfl
      exact (ih (increment state)).trans once

theorem tick_tac (t : Timer) (cycles : Int) (interrupts : Interrupts)
    : (t.tick cycles interrupts).1.tac = t.tac := by
  rw [tick]
  split
  · exact increments_tac _ _
  · rfl

theorem tick_period (t : Timer) (cycles : Int) (interrupts : Interrupts)
    : (t.tick cycles interrupts).1.period = t.period :=
  period_eq (congrArg (·.toNat % 4) (t.tick_tac cycles interrupts))

theorem increments_add (first second : Nat) (state : Timer × Interrupts)
    : increments (first + second) state = increments second (increments first state) := by
  induction first generalizing state with
  | zero => rw [Nat.zero_add, increments]
  | succ first ih => rw [Nat.succ_add, increments, increments, ih]

/-- The increments that are due when some cycles have passed. -/
def due (t : Timer) (cycles : Nat) : Nat :=
  ((t.prescaler + cycles) / t.period).toNat

/-- A running counter takes whole periods out of the cycles that pass. -/
theorem tick_running (started : 0 ≤ t.prescaler) (running : t.enabled = true) (cycles : Nat)
    (interrupts : Interrupts)
    : t.tick cycles interrupts
      = recount (Word.ofInt (t.divider.value + cycles)) ((t.prescaler + cycles) % t.period)
          (increments (t.due cycles) (t, interrupts)) := by
  have whole : (t.due cycles : Int) = (t.prescaler + cycles) / t.period :=
    Int.toNat_of_nonneg (Int.ediv_nonneg (by omega) (by omega))
  have remains : t.prescaler + cycles - t.due cycles * t.period
      = (t.prescaler + cycles) % t.period := by
    rw [whole, Int.emod_def, Int.mul_comm]
  rw [← increments_recount, ← remains]
  exact if_pos running

/-- Without the counter only the divider counts. -/
theorem tick_stopped (stopped : t.enabled = false) (cycles : Nat) (interrupts : Interrupts)
    : t.tick cycles interrupts
      = ({ t with divider := Word.ofInt (t.divider.value + cycles) }, interrupts) :=
  if_neg (Bool.eq_false_iff.mp stopped)

theorem InPhase.tick (inPhase : t.InPhase) (cycles : Nat) (interrupts : Interrupts)
    : (t.tick cycles interrupts).1.InPhase := by
  cases running : t.enabled with
  | false =>
      rw [tick_stopped running]
      exact inPhase.of_sameRate rfl rfl
  | true =>
      have positive := t.period_pos
      rw [InPhase, tick_period, tick_running inPhase.1 running]
      exact ⟨Int.emod_nonneg _ (by omega), Int.emod_lt_of_pos _ (by omega)⟩

/-- The divider counts any cycles, without an end. -/
theorem divider_add (divider : Word) (first second : Nat)
    : Word.ofInt ((Word.ofInt (divider.value + first)).value + second)
      = Word.ofInt (divider.value + (first + second : Nat)) := by
  simp only [Word.ofInt, Word.value, ← BitVec.toNat_inj, BitVec.toNat_ofInt]
  omega

/-- What is due for some cycles is due for two parts of them, of which the second starts with what
the first has left.
-/
theorem InPhase.due_add (inPhase : t.InPhase) (period : u.period = t.period) {first : Nat}
    (prescaler : u.prescaler = (t.prescaler + first) % t.period) (second : Nat)
    : t.due first + u.due second = t.due (first + second)
        ∧ (u.prescaler + second) % u.period
          = (t.prescaler + (first + second : Nat)) % t.period := by
  have positive := t.period_pos
  have low := inPhase.1
  have parts : t.prescaler + (first + second : Nat)
      = (t.prescaler + first) % t.period + second
        + t.period * ((t.prescaler + first) / t.period) := by
    have whole := Int.emod_add_mul_ediv (t.prescaler + first) t.period
    omega
  have rest := Int.emod_nonneg (t.prescaler + first) (b := t.period) (by omega)
  have front : 0 ≤ (t.prescaler + first) / t.period := Int.ediv_nonneg (by omega) (by omega)
  have back : 0 ≤ ((t.prescaler + first) % t.period + second) / t.period :=
    Int.ediv_nonneg (by omega) (by omega)
  constructor
  · rw [due, due, due, prescaler, period, parts, Int.add_mul_ediv_left _ _ (by omega)]
    omega
  · rw [prescaler, period, parts, Int.add_mul_emod_self_left]

/-- Cycles that pass in two calls pass in one. -/
theorem InPhase.tick_tick (inPhase : t.InPhase) (first second : Nat) (interrupts : Interrupts)
    : (t.tick first interrupts).1.tick second (t.tick first interrupts).2
      = t.tick (first + second : Nat) interrupts := by
  have later : (t.tick first interrupts).1.InPhase := inPhase.tick first interrupts
  cases running : t.enabled with
  | false =>
      rw [tick_stopped running, tick_stopped (by exact running), tick_stopped running, divider_add]
  | true =>
      -- The first part ends in a timer that runs at the same rate, with less than a period left.
      have ran := tick_running inPhase.1 running first interrupts
      have period := t.tick_period first interrupts
      have onward : (t.tick first interrupts).1.enabled = true := by
        rw [enabled, tick_tac]
        exact running
      generalize t.tick first interrupts = between at later ran period onward ⊢
      obtain ⟨due, rest⟩ := inPhase.due_add period (by rw [ran, recount]) second
      have divider : Word.ofInt (between.1.divider.value + second)
          = Word.ofInt (t.divider.value + (first + second : Nat)) := by
        rw [ran]
        exact divider_add t.divider first second
      rw [tick_running later.1 onward, tick_running inPhase.1 running, rest, divider, ← due,
        increments_add]
      generalize between.1.due second = count
      have whole : (between.1, between.2) = between := rfl
      rw [whole, ran, increments_recount]
      rfl

/-- Where no cycles pass nothing happens. -/
theorem InPhase.tick_zero (inPhase : t.InPhase) (interrupts : Interrupts)
    : t.tick (0 : Nat) interrupts = (t, interrupts) := by
  have divider : Word.ofInt (t.divider.value + (0 : Nat)) = t.divider := by
    rw [Int.natCast_zero, Int.add_zero, Word.ofInt_value]
  cases running : t.enabled with
  | false => rw [tick_stopped running, divider]
  | true =>
      have none : t.due 0 = 0 := by
        rw [due, Int.natCast_zero, Int.add_zero, Int.ediv_eq_zero_of_lt inPhase.1 inPhase.2]
        rfl
      have prescaler : (t.prescaler + (0 : Nat)) % t.period = t.prescaler := by
        rw [Int.natCast_zero, Int.add_zero, Int.emod_eq_of_lt inPhase.1 inPhase.2]
      rw [tick_running inPhase.1 running, none, divider, prescaler]
      rfl

end Handheld.Timer
