import Handheld.Proofs.Cpu.Course
import Handheld.Proofs.Cpu.Monitoring

/-! The latches of a processor exclude one another.
Waits end with the next fetch, and a master switch that is about to go on does so behind the next
instruction. Each instruction sets one latch at most, so never are two of them set.
-/

namespace Handheld.Cpu

variable {μ : Type} {bus : Bus μ} {core fetched : Core μ}

/-- The latches between two instructions. -/
def latches (cpu : Cpu) : List Bool :=
  [cpu.halted, cpu.stopped, cpu.haltBug, cpu.eiPending]

/-- At most one latch is set. -/
def Exclusive (cpu : Cpu) : Prop :=
  cpu.latches.count true ≤ 1

/-- An instruction sets one latch at most, and what was to go on behind it is no longer pending. -/
theorem Instruction.latch_exclusive {cpu : Cpu} (halted : cpu.halted = false)
    (stopped : cpu.stopped = false) (haltBug : cpu.haltBug = false) (fails : Bool)
    (instruction : Instruction)
    : Exclusive
        { instruction.latch fails cpu with
          eiPending := (instruction.latch fails cpu).eiPending && !cpu.eiPending } := by
  cases instruction with
  | halt => cases fails <;> simp [Exclusive, latches, latch, stopped, halted, haltBug]
  | ei => cases armed : cpu.eiPending <;> simp [Exclusive, latches, latch, halted, stopped, haltBug]
  | _ => simp [Exclusive, latches, latch, halted, stopped, haltBug]

namespace Core

/-- Of the latches, only the one that `EI` sets is cleared behind an instruction. -/
theorem completed_latches (core : Core μ) (armed : Bool)
    : (core.completed armed).cpu.latches
      = { core.cpu with eiPending := core.cpu.eiPending && !armed }.latches := by
  cases pending : core.cpu.eiPending <;> cases armed <;> simp [completed, latches, pending]

/-- Behind an instruction no two latches are set, whatever was set before it. -/
theorem executed_exclusive {instruction : Instruction} {immediate : Int}
    (found : (fetch bus).run core.forgotten = (.ok (instruction, immediate), fetched))
    : (((execute bus instruction immediate).run fetched).2.completed
          core.cpu.eiPending).cpu.Exclusive := by
  have awake : fetched.cpu = core.forgotten.advanced instruction core.forgotten.roused.cpu :=
    fetch_ok found
  have before : fetched.aside.latches = [false, false, false, core.cpu.eiPending] := by
    rw [aside, awake]
    rfl
  simp only [latches, List.cons.injEq, and_true] at before
  obtain ⟨halted, stopped, haltBug, armed⟩ := before
  have aside := run_execute_aside bus instruction immediate fetched
  have set := Instruction.latch_exclusive halted stopped haltBug
    (!fetched.interrupts.master && fetched.interrupts.hasPending) instruction
  rw [← aside, armed] at set
  rw [Exclusive, completed_latches]
  exact set

theorem Course.exclusive {outcome : Except Fault Nat} {after : Core μ}
    (course : Course bus core outcome after) (exclusive : core.cpu.Exclusive)
    : after.cpu.Exclusive := by
  cases course with
  | waits waiting => exact exclusive
  | serves called first => exact Nat.zero_le 1
  | faults awake undisturbed found =>
      rw [fetch_error found]
      exact exclusive
  | executes awake undisturbed found => exact executed_exclusive found

/-- No run sets a second latch, whatever happens to the interrupt controller meanwhile. -/
theorem exclusive_after (bus : Bus μ) (history : List (Interrupts → Interrupts))
    (exclusive : core.cpu.Exclusive)
    : (core.after bus history).cpu.Exclusive := by
  induction history generalizing core with
  | nil => exact exclusive
  | cons change history ih =>
      let changed : Core μ := { core with interrupts := change core.interrupts }
      exact ih ((course bus changed).exclusive exclusive)

/-- Wherever a run leads from a reset, no two latches are set. Neither the bus nor what happens to
the interrupt controller makes a difference.
-/
theorem after_exclusive (bus : Bus μ) (history : List (Interrupts → Interrupts))
    (interrupts : Interrupts) (memory : μ)
    : (after bus history { cpu := powerOn, interrupts, memory }).cpu.Exclusive :=
  exclusive_after bus history (Nat.zero_le 1)

end Core

end Handheld.Cpu
