import Handheld.Proofs.Memory.Signals
import Handheld.Proofs.Timer.Counting

/-! What a timer makes of cycles that pass at once.
Whole periods leave the prescaler one after the other, each for an increment of the counter. Where
the counter ends, and how often it overflows on the way, comes out of one division by the way from
the reload to the end.
-/

namespace Handheld.Timer

-----------------------------------------------------------------------------------------
-- Period after period
-----------------------------------------------------------------------------------------

theorem increment_prescaler (state : Timer × Interrupts)
    : (increment state).1.prescaler = state.1.prescaler := by
  rw [increment]
  split <;> rfl

theorem increment_period (state : Timer × Interrupts)
    : (increment state).1.period = state.1.period :=
  period_eq (congrArg (·.toNat % 4) (increments_tac 1 state))

/-- A period leaves the prescaler. -/
def relieved (t : Timer) : Timer :=
  { t with prescaler := t.prescaler - t.period }

/-- Takes a period out of the prescaler and increments the counter, as long as there is a whole one.
The overflows are counted on the way.
-/
def drain (state : Timer × Interrupts) : Nat × Timer × Interrupts :=
  if state.1.period ≤ state.1.prescaler then
    let rest := drain (increment (state.1.relieved, state.2))
    ((if state.1.tima = 0xFF then 1 else 0) + rest.1, rest.2)
  else
    (0, state)
termination_by state.1.prescaler.toNat
decreasing_by
  have positive := state.1.period_pos
  have shorter : (increment (state.1.relieved, state.2)).1.prescaler
      = state.1.prescaler - state.1.period :=
    increment_prescaler _
  omega

/-- Lets cycles pass, and answers how often the counter has overflowed meanwhile. -/
def pass (cycles : Int) (t : Timer) (interrupts : Interrupts) : Nat × Timer × Interrupts :=
  let t := { t with divider := Word.ofInt (t.divider.value + cycles) }
  if t.enabled then drain ({ t with prescaler := t.prescaler + cycles }, interrupts)
  else (0, t, interrupts)

/-- The overflows that are answered are those that have been counted and asked for. -/
theorem drain_raised (state : Timer × Interrupts)
    : Raised (drain state).1 state (drain state).2 := by
  fun_induction drain state with
  | case2 => exact ⟨rfl, (Int.add_zero _).symm⟩
  | case1 state _ rest hypothesis =>
      have once : Raised (if state.1.tima = 0xFF then 1 else 0) state
          (increment (state.1.relieved, state.2)) :=
        increment_raised (state.1.relieved, state.2)
      exact once.trans hypothesis

/-- The whole periods in the prescaler. -/
def whole (t : Timer) : Nat :=
  (t.prescaler / t.period).toNat

theorem whole_eq_zero {t : Timer} (short : ¬(t.period : Int) ≤ t.prescaler) : t.whole = 0 := by
  have positive := t.period_pos
  have below : t.prescaler / t.period < 1 := Int.ediv_lt_of_lt_mul (by omega) (by omega)
  rw [whole]
  omega

theorem whole_relieved {t : Timer} (enough : (t.period : Int) ≤ t.prescaler)
    : t.whole = t.relieved.whole + 1 := by
  have positive := t.period_pos
  have one := Int.add_mul_ediv_left (t.prescaler - t.period) 1 (b := (t.period : Int)) (by omega)
  rw [Int.mul_one, Int.sub_add_cancel] at one
  have rest : 0 ≤ (t.prescaler - t.period) / t.period := Int.ediv_nonneg (by omega) (by omega)
  have same : t.relieved.whole = ((t.prescaler - t.period) / t.period).toNat := rfl
  rw [whole, same]
  omega

theorem increment_whole (state : Timer × Interrupts)
    : (increment state).1.whole = state.1.whole := by
  rw [whole, whole, increment_prescaler, increment_period]

/-- As many increments are made as there are whole periods in the prescaler. -/
theorem drain_snd (state : Timer × Interrupts)
    : (drain state).2
      = recount state.1.divider (state.1.prescaler - state.1.whole * state.1.period)
          (increments state.1.whole state) := by
  fun_induction drain state with
  | case2 state short =>
      rw [whole_eq_zero short]
      simp [recount, increments]
  | case1 state enough rest hypothesis =>
      have taken : increment (state.1.relieved, state.2)
          = recount state.1.divider (state.1.prescaler - state.1.period) (increment state) :=
        increment_recount _ _ state
      have left : state.1.prescaler - state.1.period - state.1.relieved.whole * state.1.period
          = state.1.prescaler - (state.1.relieved.whole + 1 : Nat) * state.1.period := by
        rw [Int.natCast_add, Int.add_mul]
        omega
      rw [increment_whole, increment_prescaler, increment_period] at hypothesis
      dsimp only
      rw [hypothesis, taken, increments_recount, whole_relieved enough, ← left]
      rfl

/-- Handed over all at once, cycles have the same effect. -/
theorem pass_snd (cycles : Int) (t : Timer) (interrupts : Interrupts)
    : (t.pass cycles interrupts).2 = t.tick cycles interrupts := by
  rw [pass, tick]
  dsimp only
  split
  · rw [drain_snd, ← increments_recount]
    rfl
  · rfl

theorem pass_raised (cycles : Int) (t : Timer) (interrupts : Interrupts)
    : Raised (t.pass cycles interrupts).1 (t, interrupts) (t.tick cycles interrupts) := by
  rw [← pass_snd, pass]
  dsimp only
  split
  · exact drain_raised _
  · exact ⟨rfl, (Int.add_zero _).symm⟩

-----------------------------------------------------------------------------------------
-- Where the counter ends
-----------------------------------------------------------------------------------------

/-- Where a counter stands behind some increments. It has not come to its end yet, or it has
overflowed, gone some laps from the reload to the end, and counted on.
-/
inductive Reaches (t : Timer) (count : Nat) : Nat → Byte → Prop
  | below {tima : Byte} (here : tima.toNat = t.tima.toNat + count)
    : Reaches t count 0 tima
  | beyond (laps rest : Nat) {tima : Byte}
    (far : t.tima.toNat + count = 256 + ((256 - t.tma.toNat) * laps + rest))
    (inside : rest < 256 - t.tma.toNat) (here : tima.toNat = t.tma.toNat + rest)
    : Reaches t count (laps + 1) tima

variable {t : Timer} {tima : Byte} {count number : Nat}

theorem Reaches.reload (reaches : t.Reaches count number tima) (last : tima.toNat = 255)
    : t.Reaches (count + 1) (number + 1) t.tma := by
  cases reaches with
  | below here => exact .beyond 0 0 (by omega) (by omega) rfl
  | beyond laps rest far inside here =>
      have reloads := t.tma.isLt
      refine .beyond (laps + 1) 0 ?_ (by omega) rfl
      rw [Nat.mul_succ]
      omega

theorem Reaches.onward (reaches : t.Reaches count number tima) (free : tima.toNat < 255)
    : t.Reaches (count + 1) number (tima + 1) := by
  have next : (tima + 1).toNat = tima.toNat + 1 := by
    rw [BitVec.toNat_add]
    exact Nat.mod_eq_of_lt (by simp; omega)
  cases reaches with
  | below here => exact .below (by omega)
  | beyond laps rest far inside here =>
      exact .beyond laps (rest + 1) (by omega) (by omega) (by omega)

/-- Increments lead on in the lap, or to the next one. -/
theorem Reaches.increment {state : Timer × Interrupts}
    (reaches : t.Reaches count number state.1.tima) (reload : state.1.tma = t.tma)
    : t.Reaches (count + 1) (number + if state.1.tima = 0xFF then 1 else 0)
        (increment state).1.tima := by
  have full_iff : state.1.tima = 0xFF ↔ state.1.tima.toNat = 255 := BitVec.toNat_inj.symm
  have small := state.1.tima.isLt
  rw [Timer.increment]
  by_cases full : state.1.tima = 0xFF
  · rw [if_pos full, if_pos full, reload]
    exact reaches.reload (full_iff.mp full)
  · have free := full_iff.not.mp full
    rw [if_neg full, if_neg full]
    exact reaches.onward (by omega)

theorem increments_tma (count : Nat) (state : Timer × Interrupts)
    : (increments count state).1.tma = state.1.tma := by
  induction count generalizing state with
  | zero => rfl
  | succ count hypothesis =>
      have once : (Timer.increment state).1.tma = state.1.tma := by
        rw [Timer.increment]
        split <;> rfl
      exact (hypothesis _).trans once

theorem increments_reaches (t : Timer) (interrupts : Interrupts) (count : Nat)
    : ∃ number, Raised number (t, interrupts) (increments count (t, interrupts))
        ∧ t.Reaches count number (increments count (t, interrupts)).1.tima := by
  induction count with
  | zero => exact ⟨0, ⟨rfl, (Int.add_zero _).symm⟩, .below rfl⟩
  | succ count hypothesis =>
      obtain ⟨number, raised, reaches⟩ := hypothesis
      rw [increments_add count 1]
      exact ⟨_, raised.trans (increment_raised _), reaches.increment (increments_tma _ _)⟩

/-- A counter that does not come to its end does not overflow. -/
theorem Reaches.eq_add (reaches : t.Reaches count number tima)
    (near : t.tima.toNat + count ≤ 255)
    : number = 0 ∧ tima.toNat = t.tima.toNat + count := by
  cases reaches with
  | below here => exact ⟨rfl, here⟩
  | beyond laps rest far => omega

/-- Behind the first overflow, whole laps give the others, and the rest is counted from the reload.
-/
theorem Reaches.eq_div_mod (reaches : t.Reaches count number tima)
    (far : 255 < t.tima.toNat + count)
    : number = 1 + (t.tima.toNat + count - 256) / (256 - t.tma.toNat)
        ∧ tima.toNat
          = t.tma.toNat + (t.tima.toNat + count - 256) % (256 - t.tma.toNat) := by
  cases reaches with
  | below here =>
      have small := tima.isLt
      omega
  | beyond laps rest far inside here =>
      have parts : rest + (256 - t.tma.toNat) * laps = t.tima.toNat + count - 256 := by omega
      obtain ⟨laps', rest'⟩ := (Nat.div_mod_unique (by omega)).mpr ⟨parts, inside⟩
      rw [laps', rest']
      exact ⟨Nat.add_comm laps 1, here⟩

-----------------------------------------------------------------------------------------
-- The whole of it
-----------------------------------------------------------------------------------------

/-- What some cycles have made of a timer and of the requests, with a number of overflows. -/
structure Elapsed (t : Timer) (interrupts : Interrupts) (cycles number : Nat) (u : Timer)
    (after : Interrupts)
    : Prop where
  divider : u.divider.toNat = (t.divider.toNat + cycles) % 65536
  stopped
    : t.enabled = false → number = 0 ∧ u = { t with divider := u.divider } ∧ after = interrupts
  prescaler : t.enabled = true → u.prescaler = (t.prescaler + cycles) % t.period
  /-- The counter does not come to its end. -/
  near
    : t.enabled = true → t.tima.toNat + t.due cycles ≤ 255 →
        number = 0 ∧ u.tima.toNat = t.tima.toNat + t.due cycles
  far
    : t.enabled = true → 255 < t.tima.toNat + t.due cycles →
        number = 1 + (t.tima.toNat + t.due cycles - 256) / (256 - t.tma.toNat)
          ∧ u.tima.toNat
            = t.tma.toNat + (t.tima.toNat + t.due cycles - 256) % (256 - t.tma.toNat)
  settings : u.tma = t.tma ∧ u.tac = t.tac
  overflows : u.overflows = t.overflows + number
  requests : after.counts.get .timer = interrupts.counts.get .timer + number
  up
    : after.requests.getLsbD Source.timer.priority = true
        ↔ interrupts.requests.getLsbD Source.timer.priority = true ∨ 0 < number

theorem tick_tma (t : Timer) (cycles : Int) (interrupts : Interrupts)
    : (t.tick cycles interrupts).1.tma = t.tma := by
  rw [tick]
  dsimp only
  split
  · exact increments_tma _ _
  · rfl

/-- A counter that runs makes the increments that are due. -/
theorem pass_reaches (started : 0 ≤ t.prescaler) (running : t.enabled = true) (cycles : Nat)
    (interrupts : Interrupts)
    : t.Reaches (t.due cycles) (t.pass cycles interrupts).1 (t.tick cycles interrupts).1.tima := by
  obtain ⟨number, raised, reaches⟩ := increments_reaches t interrupts (t.due cycles)
  have ticked := tick_running started running cycles interrupts
  have passed := (pass_raised cycles t interrupts).2
  rw [ticked] at passed
  have same : (t.pass cycles interrupts).1 = number := by
    have counted := passed.symm.trans raised.2
    dsimp only at counted
    omega
  rw [ticked, same]
  exact reaches

/-- Cycles may be handed over period by period, with a count of the overflows, or at once. The
outcome is the same and comes out of two divisions, however far the prescaler has got before.
-/
theorem tick_elapsed (started : 0 ≤ t.prescaler) (cycles : Nat) (interrupts : Interrupts)
    : (t.pass cycles interrupts).2 = t.tick cycles interrupts
        ∧ t.Elapsed interrupts cycles (t.pass cycles interrupts).1 (t.tick cycles interrupts).1
            (t.tick cycles interrupts).2 := by
  obtain ⟨requested, overflows⟩ := pass_raised cycles t interrupts
  have reaches := fun running => pass_reaches started running cycles interrupts
  refine ⟨pass_snd cycles t interrupts, ?_⟩
  exact {
    divider := by
      have counted := Word.toNat_ofInt (t.divider.value + cycles)
      rw [tick_divider, Word.value] at *
      omega
    stopped := fun stopped => by
      have none : (t.pass cycles interrupts).1 = 0 :=
        congrArg Prod.fst (if_neg (Bool.eq_false_iff.mp stopped))
      rw [tick_stopped stopped]
      exact ⟨none, rfl, rfl⟩
    prescaler := fun running => by rw [tick_running started running, recount]
    near := fun running => (reaches running).eq_add
    far := fun running => (reaches running).eq_div_mod
    settings := ⟨t.tick_tma _ _, t.tick_tac _ _⟩
    overflows
    requests := by
      rw [requested, interrupts.iterate_request_counts]
      rfl
    up := by
      rw [requested, interrupts.iterate_request_up]
      simp }

/-- The prescaler starts behind its period, and the counter overflows on every third increment. -/
theorem tick_elapsed_swiftly
    : let t : Timer := { tima := 0xFE, tma := 0xFD, tac := 5, prescaler := 20 }
      let cycles : Nat := 100
      0 ≤ t.prescaler ∧ t.due cycles = 7
        ∧ (t.pass cycles {}).1 = 2 ∧ (t.tick cycles {}).1.tima.toNat = 0xFF
        ∧ (t.tick cycles {}).1.prescaler = 8 ∧ (t.tick cycles {}).2.counts.timer = 2 := by
  intro t cycles
  have started : 0 ≤ t.prescaler := by decide
  have running : t.enabled = true := by decide
  have due : t.due cycles = 7 := by decide
  obtain ⟨-, elapsed⟩ := tick_elapsed started cycles {}
  obtain ⟨number, tima⟩ := elapsed.far running (by decide)
  have requests := elapsed.requests
  rw [due] at number tima
  have twice : (t.pass cycles {}).1 = 2 := number.trans (by decide)
  have last : (t.tick cycles {}).1.tima.toNat = 0xFF := tima.trans (by decide)
  have remains : (t.tick cycles {}).1.prescaler = 8 :=
    (elapsed.prescaler running).trans (by decide)
  rw [twice] at requests
  exact ⟨started, due, twice, last, remains, requests⟩

end Handheld.Timer
