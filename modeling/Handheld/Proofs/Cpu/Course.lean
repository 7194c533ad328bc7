import Handheld.Proofs.Cpu.Frame

/-! The four courses that a step can take, on any bus.
The state before a step decides between waiting, serving an interrupt and executing; only the opcode
that is read then decides whether there is anything to execute.
-/

namespace Handheld.Cpu

variable {μ : Type} {bus : Bus μ} {core fetched : Core μ}

namespace Core

-----------------------------------------------------------------------------------------
-- What a fetch does to the processor
-----------------------------------------------------------------------------------------

/-- By how much a `HALT` that failed to wait puts back what is fetched next. -/
def skew (core : Core μ) : Int :=
  if core.cpu.haltBug then 1 else 0

/-- The address of the byte behind the opcode. -/
def behind (core : Core μ) : Int :=
  (core.cpu.registers.pc + 1 - core.skew) % 65536

/-- The processor no longer waits. -/
def roused (core : Core μ) : Core μ :=
  { core with cpu.halted := false, cpu.stopped := false, cpu.haltBug := false }

/-- What becomes of a processor as an instruction is fetched from where the program counter was. -/
def advanced (core : Core μ) (instruction : Instruction) (cpu : Cpu) : Cpu :=
  { cpu with
    registers.pc := (core.cpu.registers.pc + instruction.length - core.skew) % 65536
    lastInstruction := some instruction }

/-- The opcode is read first, with all that the read changes. -/
def opened (bus : Bus μ) (core : Core μ) : Int × Core μ :=
  (read bus core.cpu.registers.pc).run core

/-- A fetch goes no further than to an undefined opcode. -/
theorem run_fetch_undefined (undefined : Chart.decode? (Byte.ofInt (core.opened bus).1) = none)
    : (fetch bus).run core
      = (.error { opcode := Byte.ofInt (core.opened bus).1, pc := core.cpu.registers.pc },
          (core.opened bus).2) := by
  have registers : getRegisters.run core = (core.cpu.registers, core) := rfl
  have opcode : (read bus core.cpu.registers.pc).run core
      = ((core.opened bus).1, (core.opened bus).2) := rfl
  rw [fetch, run_bind_of registers]
  dsimp only
  rw [run_bind_of opcode, undefined]
  rfl

/-- Behind a defined opcode, a fetch goes on with the bytes that belong to it. -/
theorem run_fetch_defined {first : Instruction}
    (defined : Chart.decode? (Byte.ofInt (core.opened bus).1) = some first)
    : (fetch bus).run core
      = let rest := (fetchRest bus first core.behind).run (core.opened bus).2.roused
        (.ok rest.1, { rest.2 with cpu := core.advanced rest.1.1 rest.2.cpu }) := by
  have registers : getRegisters.run core = (core.cpu.registers, core) := rfl
  have opcode : (read bus core.cpu.registers.pc).run core
      = ((core.opened bus).1, (core.opened bus).2) := rfl
  rw [fetch, run_bind_of registers]
  dsimp only
  rw [run_bind_of opcode, defined]
  rfl

/-- What follows an opcode is fetched by reading bytes. -/
theorem fetchRest_leaves {τ : Type} {view : Core μ → τ}
    (readByte : ∀ address, Leaves view (readByte bus address)) (first : Instruction) (address : Int)
    : Leaves view (fetchRest bus first address) := by
  rw [fetchRest]
  split
  · exact (readByte _).bind fun _ => .pure _
  split
  · exact (readByte _).bind fun _ => .pure _
  split
  · exact (readByte _).bind fun _ => (readByte _).bind fun _ => .pure _
  · exact .pure _

/-- A fetch changes nothing that lies outside of the processor and that no read changes. -/
theorem fetch_leaves {τ : Type} {view : Core μ → τ}
    (onCpu : ∀ change, Leaves view (Core.onCpu change))
    (read : ∀ address, Leaves view (Core.read bus address))
    : Leaves view (fetch bus) := by
  have getRegisters : Leaves view (Core.getRegisters (μ := μ)) := fun _ => rfl
  have getCpu : Leaves view (Core.getCpu (μ := μ)) := fun _ => rfl
  have readByte (address : Int) : Leaves view (Core.readByte bus address) :=
    (read address).bind fun _ => .pure _
  have jumpTo (address : Int) : Leaves view (Core.jumpTo (μ := μ) address) := onCpu _
  refine getRegisters.bind fun _ => (read _).bind fun opcode => ?_
  dsimp only
  cases Chart.decode? (Byte.ofInt opcode) with
  | none => exact .pure _
  | some first =>
      refine getCpu.bind fun _ => (onCpu _).bind fun _ => ?_
      refine (fetchRest_leaves readByte _ _).bind fun _ => ?_
      exact (jumpTo _).bind fun _ => (onCpu _).answering _

/-- A fetch that fails has read an opcode and done nothing else. -/
theorem fetch_error {fault : Fault} (found : (fetch bus).run core = (.error fault, fetched))
    : fetched = (core.opened bus).2 := by
  cases opcode : Chart.decode? (Byte.ofInt (core.opened bus).1) with
  | none =>
      rw [run_fetch_undefined opcode] at found
      exact (Prod.mk.inj found).2.symm
  | some first =>
      rw [run_fetch_defined opcode] at found
      cases found

/-- A fetch that succeeds moves the program counter, ends all waiting and takes a note. -/
theorem fetch_ok {instruction : Instruction} {immediate : Int}
    (found : (fetch bus).run core = (.ok (instruction, immediate), fetched))
    : fetched.cpu = core.advanced instruction core.roused.cpu := by
  cases opcode : Chart.decode? (Byte.ofInt (core.opened bus).1) with
  | none =>
      rw [run_fetch_undefined opcode] at found
      cases found
  | some first =>
      have kept : ((fetchRest bus first core.behind).run (core.opened bus).2.roused).2.cpu
          = core.roused.cpu :=
        fetchRest_leaves (fun _ _ => rfl) first core.behind (core.opened bus).2.roused
      rw [run_fetch_defined opcode] at found
      obtain ⟨rest, rfl⟩ := Prod.mk.inj found
      dsimp only
      rw [Except.ok.inj rest, kept]

-----------------------------------------------------------------------------------------
-- What a step comes to
-----------------------------------------------------------------------------------------

/-- What a step comes to: its outcome, and the processor behind it. -/
inductive Course (bus : Bus μ) (core : Core μ) : Except Fault Nat → Core μ → Prop
  | waits (waiting : core.idles = true)
    : Course bus core (.ok 4) core.forgotten
  | serves {source : Source} (called : core.interrupted = true)
      (first : core.interrupts.highest? = some source)
    : Course bus core (.ok 20) ((dispatch bus source).run core.forgotten).2
  | faults {fault : Fault} {fetched : Core μ} (awake : core.idles = false)
      (undisturbed : core.interrupted = false)
      (found : (fetch bus).run core.forgotten = (.error fault, fetched))
    : Course bus core (.error fault) fetched
  | executes {instruction : Instruction} {immediate : Int} {fetched : Core μ}
      (awake : core.idles = false) (undisturbed : core.interrupted = false)
      (found : (fetch bus).run core.forgotten = (.ok (instruction, immediate), fetched))
    : Course bus core (.ok (instruction.cost (instruction.taken core.cpu.registers.flags)))
        (((execute bus instruction immediate).run fetched).2.completed core.cpu.eiPending)

theorem course (bus : Bus μ) (core : Core μ)
    : Course bus core ((step bus).run core).1 ((step bus).run core).2 := by
  cases awake : core.idles with
  | true =>
      rw [run_step_idles bus awake]
      exact .waits awake
  | false =>
      cases undisturbed : core.interrupted with
      | true =>
          obtain ⟨enabled, up⟩ := Bool.and_eq_true_iff.mp undisturbed
          obtain ⟨source, first⟩ := Interrupts.exists_highest? up
          rw [run_step_dispatches bus enabled first]
          exact .serves undisturbed first
      | false =>
          rw [run_step_executes bus awake undisturbed]
          cases found : (fetch bus).run core.forgotten with
          | mk answer fetched =>
              cases answer with
              | error fault =>
                  rw [run_executeNext_fault found]
                  exact .faults awake undisturbed found
              | ok fetchedInstruction =>
                  obtain ⟨instruction, immediate⟩ := fetchedInstruction
                  -- The price depends on flags that the fetch has not touched.
                  have flags : fetched.cpu.registers.flags = core.cpu.registers.flags :=
                    congrArg (·.registers.flags) (fetch_ok found)
                  rw [run_executeNext found, flags]
                  exact .executes awake undisturbed found

end Core

-----------------------------------------------------------------------------------------
-- What the processor notes down
-----------------------------------------------------------------------------------------

/-- The count of instructions, and the notes of what the last step did. -/
def record (cpu : Cpu) : Int × Option Instruction × Option Source :=
  (cpu.instructionCount, cpu.lastInstruction, cpu.lastInterrupt)

theorem record_latch (fails : Bool) (cpu : Cpu) (instruction : Instruction)
    : (instruction.latch fails cpu).record = cpu.record := by
  cases instruction with
  | halt => cases fails <;> rfl
  | _ => rfl

namespace Core

/-- Behind an instruction one more is counted. -/
theorem completed_record (core : Core μ) (pending : Bool)
    : (core.completed pending).cpu.record
      = (core.cpu.instructionCount + 1, core.cpu.lastInstruction, core.cpu.lastInterrupt) := by
  rw [completed]
  split <;> rfl

/-- A step that serves an interrupt counts no instruction and notes the source. -/
theorem served_record (bus : Bus μ) (source : Source) (core : Core μ)
    : ((dispatch bus source).run core.forgotten).2.cpu.record
      = (core.cpu.instructionCount, none, some source) :=
  rfl

/-- A step that executes an instruction counts it and notes it down. -/
theorem executed_record {instruction : Instruction} {immediate : Int}
    (found : (fetch bus).run core.forgotten = (.ok (instruction, immediate), fetched))
    : (((execute bus instruction immediate).run fetched).2.completed core.cpu.eiPending).cpu.record
      = (core.cpu.instructionCount + 1, some instruction, none) := by
  have carried : ((execute bus instruction immediate).run fetched).2.cpu.record
      = fetched.cpu.record :=
    (congrArg record (run_execute_aside bus instruction immediate fetched)).trans
      (record_latch _ _ instruction)
  have read : fetched.cpu.record = (core.cpu.instructionCount, some instruction, none) :=
    congrArg record (fetch_ok found)
  have noted := Prod.mk.inj (carried.trans read)
  rw [completed_record, noted.1, (Prod.mk.inj noted.2).1, (Prod.mk.inj noted.2).2]

/-- A step that notes down an instruction has fetched it. -/
theorem Course.found {outcome : Except Fault Nat} {after : Core μ} {instruction : Instruction}
    (course : Course bus core outcome after) (noted : after.cpu.lastInstruction = some instruction)
    : core.idles = false ∧ core.interrupted = false
        ∧ ∃ immediate fetched,
          (fetch bus).run core.forgotten = (.ok (instruction, immediate), fetched) := by
  cases course with
  | waits waiting => cases noted
  | @serves source called first =>
      cases (congrArg (·.2.1) (served_record bus source core)).symm.trans noted
  | faults awake undisturbed found =>
      rw [fetch_error found] at noted
      cases noted
  | executes awake undisturbed found =>
      obtain rfl := Option.some.inj ((congrArg (·.2.1) (executed_record found)).symm.trans noted)
      exact ⟨awake, undisturbed, _, _, found⟩

end Core

end Handheld.Cpu
