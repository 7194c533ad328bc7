import Handheld.Cpu.Execution
import Handheld.Proofs.Simulation

/-! What a step turns out to be, and which instructions are taken.
The state before a step decides whether it waits, serves an interrupt or executes an instruction;
the flags before an instruction decide whether it is taken.
-/

namespace Handheld

/-- There is a source to serve just if an enabled request is up. -/
theorem Interrupts.highest?_eq_none_iff {interrupts : Interrupts}
    : interrupts.highest? = none ↔ interrupts.hasPending = false := by
  have search : ∀ pending : BitVec 5,
      (Source.all.find? fun source => pending.getLsbD source.priority) = none
        ↔ decide (pending ≠ 0) = false := by
    decide
  exact search interrupts.pending

/-- A source is served only while an enabled request is up. -/
theorem Interrupts.hasPending_of_highest? {interrupts : Interrupts} {source : Source}
    (first : interrupts.highest? = some source)
    : interrupts.hasPending = true := by
  cases pending : interrupts.hasPending with
  | true => rfl
  | false =>
      rw [Interrupts.highest?_eq_none_iff.mpr pending] at first
      cases first

theorem Interrupts.exists_highest? {interrupts : Interrupts} (pending : interrupts.hasPending = true)
    : ∃ source, interrupts.highest? = some source := by
  cases first : interrupts.highest? with
  | some source => exact ⟨source, rfl⟩
  | none =>
      rw [Interrupts.highest?_eq_none_iff.mp first] at pending
      cases pending

namespace Cpu

/-- Whether an instruction is taken under these flags. One without a condition is. -/
def Instruction.taken (flags : Flags) : Instruction → Bool
  | .jump condition | .jumpRelative condition | .call condition | .ret condition =>
    condition.all (·.holds flags)
  | _ => false

namespace Core

variable {μ : Type}

/-- A test comes out as the flags have it and changes nothing. -/
theorem run_isTaken (condition : Option Condition) (core : Core μ)
    : (isTaken condition).run core
      = (condition.all (·.holds core.cpu.registers.flags), core) := by
  cases condition <;> rfl

/-- An instruction whose condition is tested is taken if the test succeeds. -/
theorem run_tested (condition : Option Condition) (work : StateM (Core μ) PUnit)
    (core : Core μ)
    : ((isTaken condition >>= fun taken =>
          if taken then work >>= fun _ => pure taken else pure taken).run core).1
      = condition.all (·.holds core.cpu.registers.flags) := by
  rw [StateT.run_bind, run_isTaken]
  cases condition.all (·.holds core.cpu.registers.flags) <;> rfl

/-- `HALT` waits, or else leaves the next fetch without an advance. -/
theorem run_halt (bus : Bus μ) (immediate : Int) (core : Core μ)
    : (execute bus .halt immediate).run core
      = (false,
          if !core.interrupts.master && core.interrupts.hasPending
          then { core with cpu.haltBug := true } else { core with cpu.halted := true }) := by
  have body : (execute bus .halt immediate).run core
      = (if !core.interrupts.master && core.interrupts.hasPending then
          onCpu (fun cpu => { cpu with haltBug := true }) >>= fun _ => pure false
        else
          onCpu (fun cpu => { cpu with halted := true }) >>= fun _ => pure false).run core := rfl
  rw [body]
  cases !core.interrupts.master && core.interrupts.hasPending <;> rfl

/-- The flags before an instruction decide whether it is taken, on any bus. -/
theorem run_execute_taken (bus : Bus μ) (instruction : Instruction) (immediate : Int)
    (core : Core μ)
    : ((execute bus instruction immediate).run core).1
      = instruction.taken core.cpu.registers.flags := by
  cases instruction with
  | jump condition => exact run_tested condition (jumpTo immediate) core
  | jumpRelative condition => exact run_tested condition _ core
  | call condition =>
      exact run_tested condition
        (getRegisters >>= fun r => push bus r.pc >>= fun _ => jumpTo immediate) core
  | ret condition => exact run_tested condition (pop bus >>= jumpTo) core
  | halt => rw [run_halt]; rfl
  | _ => rfl

/-- The processor behind an instruction: a master switch that was to go on before it goes on
unless the instruction took that back, and the instruction is counted.
-/
def completed (core : Core μ) (pending : Bool) : Core μ :=
  let core :=
    if pending && core.cpu.eiPending then
      { core with cpu.eiPending := false, interrupts := core.interrupts.setMaster true }
    else
      core
  { core with cpu.instructionCount := core.cpu.instructionCount + 1 }

theorem completed_enabling {core : Core μ} (pending : core.cpu.eiPending = true)
    : core.completed true
      = { core with
          cpu.eiPending := false
          cpu.instructionCount := core.cpu.instructionCount + 1
          interrupts := core.interrupts.setMaster true } := by
  simp [completed, pending]

theorem completed_plain {core : Core μ} {pending : Bool}
    (idle : (pending && core.cpu.eiPending) = false)
    : core.completed pending
      = { core with cpu.instructionCount := core.cpu.instructionCount + 1 } := by
  simp [completed, idle]

/-- An instruction that could be fetched is carried out and paid for. -/
theorem run_executeNext {bus : Bus μ} {core fetched : Core μ} {instruction : Instruction}
    {immediate : Int}
    (found : (fetch bus).run core = (.ok (instruction, immediate), fetched))
    : (executeNext bus).run core
      = (.ok (instruction.cost (instruction.taken fetched.cpu.registers.flags)),
          ((execute bus instruction immediate).run fetched).2.completed core.cpu.eiPending) := by
  have cpu : ∀ core : Core μ, getCpu.run core = (core.cpu, core) := fun _ => rfl
  have executed : (execute bus instruction immediate).run fetched
      = (instruction.taken fetched.cpu.registers.flags,
          ((execute bus instruction immediate).run fetched).2) :=
    Prod.ext (run_execute_taken bus instruction immediate fetched) rfl
  rw [executeNext, run_bind_of (cpu core), run_bind_of found]
  dsimp only
  rw [run_bind_of executed]
  generalize ((execute bus instruction immediate).run fetched).2 = after
  rw [run_bind_of (cpu after), completed]
  cases core.cpu.eiPending && after.cpu.eiPending <;> rfl

/-- Without an instruction there is nothing to do. -/
theorem run_executeNext_fault {bus : Bus μ} {core fetched : Core μ} {fault : Fault}
    (found : (fetch bus).run core = (.error fault, fetched))
    : (executeNext bus).run core = (.error fault, fetched) := by
  have cpu : getCpu.run core = (core.cpu, core) := rfl
  rw [executeNext, run_bind_of cpu, run_bind_of found]
  rfl

/-- The processor waits, and no enabled request ends its waiting. -/
def idles (core : Core μ) : Bool :=
  (core.cpu.halted || core.cpu.stopped) && !core.interrupts.hasPending

/-- An enabled request is served before anything else happens. -/
def interrupted (core : Core μ) : Bool :=
  core.interrupts.master && core.interrupts.hasPending

/-- The state in which a step starts, with nothing known of the step before. -/
def forgotten (core : Core μ) : Core μ :=
  { core with cpu.lastInstruction := none, cpu.lastInterrupt := none }

/-- A step of a waiting processor takes four cycles and does nothing. -/
theorem run_step_idles (bus : Bus μ) {core : Core μ} (waits : core.idles = true)
    : (step bus).run core = (.ok 4, core.forgotten) := by
  have body : (step bus).run core
      = (if core.idles then pure (Except.ok 4) else _ : StateM _ _).run core.forgotten := rfl
  rw [body, waits]
  rfl

/-- A step with an enabled request serves the source that comes first. -/
theorem run_step_dispatches (bus : Bus μ) {core : Core μ} {source : Source}
    (enabled : core.interrupts.master = true) (first : core.interrupts.highest? = some source)
    : (step bus).run core
      = (.ok ((dispatch bus source).run core.forgotten).1,
          ((dispatch bus source).run core.forgotten).2) := by
  have awake : core.idles = false := by
    simp [idles, Interrupts.hasPending_of_highest? first]
  have body : (step bus).run core
      = (if core.idles then pure (.ok 4)
        else if core.interrupts.master then _
        else executeNext bus).run core.forgotten := rfl
  rw [body, awake, enabled, first]
  rfl

/-- A step that neither waits nor serves an interrupt executes an instruction. -/
theorem run_step_executes (bus : Bus μ) {core : Core μ} (awake : core.idles = false)
    (undisturbed : core.interrupted = false)
    : (step bus).run core = (executeNext bus).run core.forgotten := by
  have body : (step bus).run core
      = (if core.idles then pure (.ok 4)
        else if core.interrupts.master then _
        else executeNext bus).run core.forgotten := rfl
  rw [body, awake]
  cases enabled : core.interrupts.master with
  | false => rfl
  | true =>
      have calm : core.interrupts.hasPending = false := by
        simpa [interrupted, enabled] using undisturbed
      rw [Interrupts.highest?_eq_none_iff.mpr calm]
      rfl

end Core

end Cpu

end Handheld
