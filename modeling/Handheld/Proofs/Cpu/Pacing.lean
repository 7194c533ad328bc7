import Handheld.Proofs.Cpu.Congruence
import Handheld.Proofs.Cpu.Mirroring

/-! Steps up to a fault.
Processors that are alike keep pace with each other up to the first step that fails, and what gets
lost on the way is lost behind it.
-/

namespace Handheld.Cpu

variable {μ ν : Type}

namespace Core

/-- The outcomes of a number of steps, up to and including the first that fails, and the processor
behind them.
-/
def pace (bus : Bus μ) : Nat → Core μ → List (Except Fault Nat) × Core μ
  | 0, core => ([], core)
  | count + 1, core =>
    match (step bus).run core with
    | (.ok cycles, core) =>
      let (outcomes, core) := pace bus count core
      (.ok cycles :: outcomes, core)
    | (.error fault, core) => ([.error fault], core)

theorem pace_ok {bus : Bus μ} {core after : Core μ} {cycles : Nat}
    (ran : (step bus).run core = (.ok cycles, after)) (count : Nat)
    : core.pace bus (count + 1)
      = (.ok cycles :: (after.pace bus count).1, (after.pace bus count).2) := by
  rw [pace, ran]

theorem pace_error {bus : Bus μ} {core after : Core μ} {fault : Fault}
    (ran : (step bus).run core = (.error fault, after)) (count : Nat)
    : core.pace bus (count + 1) = ([.error fault], after) := by
  rw [pace, ran]

variable {R : Interrupts × μ → Interrupts × ν → Prop}

theorem Alike.forgotten {c : Core μ} {d : Core ν} (alike : Alike R c d)
    : Alike R c.forgotten d.forgotten :=
  { alike with lastInstruction := rfl, lastInterrupt := rfl }

/-- On buses that answer alike, processors in the same state keep pace. -/
theorem Alike.pace {bus : Bus μ} {other : Bus ν} (congruent : bus.Congruent R other) (count : Nat)
    {c : Core μ} {d : Core ν} (alike : Alike R c.forgotten d.forgotten)
    : (c.pace bus count).1 = (d.pace other count).1
        ∧ Alike R (c.pace bus count).2.forgotten (d.pace other count).2.forgotten := by
  induction count generalizing c d with
  | zero => exact ⟨rfl, alike⟩
  | succ count ih =>
      obtain ⟨same, next⟩ := alike.step congruent
      rcases left : (Core.step bus).run c with ⟨outcome, c'⟩
      rcases right : (Core.step other).run d with ⟨outcome', d'⟩
      rw [left, right] at same next
      obtain rfl : outcome = outcome' := same
      cases outcome with
      | error fault =>
          rw [pace_error left, pace_error right]
          exact ⟨rfl, next.forgotten⟩
      | ok cycles =>
          obtain ⟨later, behind⟩ := ih next.forgotten
          rw [pace_ok left, pace_ok right]
          exact ⟨congrArg _ later, behind⟩

end Core

/-- What is lost on the way is lost in the end. -/
theorem Bus.Traps.pace {lost : Interrupts × μ → Prop} {bus : Bus μ} (traps : bus.Traps lost)
    (count : Nat) {core : Core μ} (gone : lost core.around)
    : lost (core.pace bus count).2.around := by
  induction count generalizing core with
  | zero => exact gone
  | succ count ih =>
      have next := traps.step gone
      rcases ran : (Core.step bus).run core with ⟨outcome, after⟩
      rw [ran] at next
      cases outcome with
      | error fault =>
          rw [Core.pace_error ran]
          exact next
      | ok cycles =>
          rw [Core.pace_ok ran]
          exact ih next

/-- Each step is free of what is not to be found behind all of them. -/
theorem Bus.Traps.free {lost : Interrupts × μ → Prop} {bus : Bus μ} (traps : bus.Traps lost)
    {count : Nat} {core : Core μ} (free : ¬lost (core.pace bus (count + 1)).2.around)
    : ¬lost ((Core.step bus).run core).2.around := by
  intro gone
  rcases ran : (Core.step bus).run core with ⟨outcome, after⟩
  rw [ran] at gone
  cases outcome with
  | error fault =>
      rw [Core.pace_error ran] at free
      exact free gone
  | ok cycles =>
      rw [Core.pace_ok ran] at free
      exact free (traps.pace count gone)

end Handheld.Cpu
