import Handheld.Console.Step
import Handheld.Proofs.Console.Reachable
import Handheld.Proofs.Console.WellFormed
import Handheld.Proofs.Memory.Fetch

/-! Where the cycles of a step go.
A step waits, serves an interrupt or executes an instruction, and the clock and the timer see
exactly the cycles that it answers.
-/

namespace Handheld

-----------------------------------------------------------------------------------------
-- Costs
-----------------------------------------------------------------------------------------

namespace Cpu

/-- What a step was spent on. -/
inductive Activity
  | waiting
  | service (source : Source)
  | execution (instruction : Instruction)
  deriving DecidableEq, Repr

/-- What a processor with these notes was busy with. -/
def Activity.ofNotes : Option Instruction → Option Source → Activity
  | _, some source => .service source
  | some instruction, none => .execution instruction
  | none, none => .waiting

/-- What the last step was spent on, by the processor's own notes. -/
def activity (cpu : Cpu) : Activity :=
  .ofNotes cpu.lastInstruction cpu.lastInterrupt

theorem activity_of_record {cpu : Cpu} {count : Int} {instruction : Option Instruction}
    {source : Option Source} (noted : cpu.record = (count, instruction, source))
    : cpu.instructionCount = count ∧ cpu.activity = .ofNotes instruction source := by
  obtain ⟨counted, notes⟩ := Prod.mk.inj noted
  obtain ⟨first, second⟩ := Prod.mk.inj notes
  exact ⟨counted, by rw [activity, first, second]⟩

namespace Instruction

/-- The instruction has a condition, and the flags satisfy it. -/
def IsMet (flags : Flags) (instruction : Instruction) : Prop :=
  ∃ condition, instruction.condition? = some condition ∧ condition.holds flags = true

/-- An instruction costs its second price just if its condition is met, and otherwise the first. -/
theorem cost_iff (flags : Flags) (instruction : Instruction)
    : (instruction.takenCycles? = some (instruction.cost (instruction.taken flags))
          ↔ instruction.IsMet flags)
        ∧ (instruction.cycles = instruction.cost (instruction.taken flags)
          ↔ ¬instruction.IsMet flags) := by
  cases instruction with
  | jump condition | jumpRelative condition | call condition | ret condition =>
      cases condition with
      | none => simp [IsMet, taken, cost, condition?, takenCycles?]
      | some condition =>
          cases met : condition.holds flags <;>
            simp [IsMet, taken, cost, condition?, takenCycles?, cycles, met]
  | _ => simp [IsMet, taken, cost, condition?, takenCycles?]

end Instruction

namespace Core

variable {core after : Core Memory} {cycles : Nat}

theorem idles_iff
    : core.idles = true
        ↔ (core.cpu.halted = true ∨ core.cpu.stopped = true) ∧ core.interrupts.pending = 0 := by
  simp [idles, Interrupts.hasPending]

theorem interrupted_iff
    : core.interrupted = true
        ↔ core.interrupts.master = true ∧ core.interrupts.pending ≠ 0 := by
  simp [interrupted, Interrupts.hasPending]

/-- What the cycles of a step were spent on that has led from one state to the other. The state
before the step decides about it.
-/
structure Spent (core : Core Memory) (cycles : Nat) (after : Core Memory) : Prop where
  waiting_iff
    : after.cpu.activity = .waiting
        ↔ (core.cpu.halted = true ∨ core.cpu.stopped = true) ∧ core.interrupts.pending = 0
  service_iff
    : (∃ source, after.cpu.activity = .service source)
        ↔ core.interrupts.master = true ∧ core.interrupts.pending ≠ 0
  /-- Waiting changes nothing besides the notes of the step before. -/
  waiting : after.cpu.activity = .waiting → cycles = 4 ∧ after = core.forgotten
  service
    : ∀ source, after.cpu.activity = .service source →
        cycles = 20 ∧ after.cpu.instructionCount = core.cpu.instructionCount
  /-- An instruction has two prices if it has a condition. -/
  execution
    : ∀ instruction, after.cpu.activity = .execution instruction →
        core.instruction? = some instruction
          ∧ after.cpu.instructionCount = core.cpu.instructionCount + 1
          ∧ (instruction.takenCycles? = some cycles ↔ instruction.IsMet core.cpu.registers.flags)
          ∧ (instruction.cycles = cycles ↔ ¬instruction.IsMet core.cpu.registers.flags)

/-- Every course that succeeds spends its cycles like that. -/
theorem Course.spent (course : Course Memory.bus core (.ok cycles) after)
    : core.Spent cycles after := by
  have apart : core.idles = true → core.interrupted = true → False := by
    rw [idles_iff, interrupted_iff]
    exact fun idle called => called.2 idle.2
  cases course with
  | waits waiting =>
      have calm : core.interrupted ≠ true := apart waiting
      exact {
        waiting_iff := iff_of_true rfl (idles_iff.mp waiting)
        service_iff := iff_of_false nofun (mt interrupted_iff.mpr calm)
        waiting := fun _ => ⟨rfl, rfl⟩
        service := nofun
        execution := nofun }
  | @serves source called first =>
      obtain ⟨counted, active⟩ := activity_of_record (served_record Memory.bus source core)
      generalize ((dispatch Memory.bus source).run core.forgotten).2 = served at counted active ⊢
      have awake : core.idles ≠ true := fun idle => apart idle called
      refine {
        waiting_iff := iff_of_false ?_ (mt idles_iff.mpr awake)
        service_iff := iff_of_true ⟨source, active⟩ (interrupted_iff.mp called)
        waiting := ?_
        service := fun _ _ => ⟨rfl, counted⟩
        execution := ?_ }
      all_goals
        rw [active]
        nofun
  | @executes instruction immediate fetched awake undisturbed found =>
      obtain ⟨counted, active⟩ := activity_of_record (executed_record found)
      generalize (completed _ _) = executed at counted active ⊢
      have entry : core.instruction? = some instruction :=
        (instruction?_forgotten core).symm.trans (instruction?_of_fetch found)
      have busy : core.idles ≠ true := Bool.eq_false_iff.mp awake
      have uncalled : core.interrupted ≠ true := Bool.eq_false_iff.mp undisturbed
      refine {
        waiting_iff := iff_of_false ?_ (mt idles_iff.mpr busy)
        service_iff := iff_of_false ?_ (mt interrupted_iff.mpr uncalled)
        waiting := ?_
        service := ?_
        execution := fun _ named => ?executed }
      case executed =>
          obtain rfl := Activity.execution.inj (active.symm.trans named)
          exact ⟨entry, counted, instruction.cost_iff _⟩
      all_goals
        rw [active]
        nofun

end Core

end Cpu

-----------------------------------------------------------------------------------------
-- What a step of a console comes to
-----------------------------------------------------------------------------------------

namespace Memory

/-- The timer has seen nothing but writes to its registers. -/
def OnlyWritten (timer : Timer) (around : Interrupts × Memory) : Prop :=
  ∃ writes : List (Timer.Register × Byte),
    around.2.timer = writes.foldl (fun timer write => timer.set write.1 write.2) timer

/-- Only a write to one of its registers reaches the timer. -/
theorem set_timer (m : Memory) (place : Place) (value : Byte) (interrupts : Interrupts)
    : (m.set place value interrupts).2.timer = m.timer
        ∨ ∃ register, (m.set place value interrupts).2.timer = m.timer.set register value := by
  cases place with
  | timer register => exact .inr ⟨register, rfl⟩
  | _ => exact .inl rfl

theorem bus_keeps_onlyWritten (timer : Timer) : bus.Keeps (OnlyWritten timer) where
  setMaster holds _ := holds
  acknowledge holds _ := holds
  read holds _ := holds
  write := by
    rintro ⟨interrupts, m⟩ ⟨writes, written⟩ address value
    let noted : Memory :=
      { m with
        writeCount := m.writeCount + 1
        log := m.log.noteWrite (Address.ofInt address.toNat) (Byte.ofInt value.toNat) }
    rcases noted.set_timer (place (Address.ofInt address.toNat)) (Byte.ofInt value.toNat) interrupts
      with kept | ⟨register, set⟩
    · exact ⟨writes, kept.trans written⟩
    · refine ⟨writes ++ [(register, Byte.ofInt value.toNat)], set.trans ?_⟩
      rw [List.foldl_append, ← written]
      rfl

end Memory

namespace Console

variable {c d : Console} {cycles : Nat}

/-- What the processor makes of the machine in a step, before the timer sees its cycles. -/
def worked (c : Console) : Cpu.Core Memory :=
  ((Cpu.Core.step Memory.bus).run c.core).2

/-- A step that succeeds takes one of the courses of the processor, and ends with the timer. -/
theorem step_ok (stepped : c.step = (.ok cycles, d))
    : Cpu.Core.Course Memory.bus c.core (.ok cycles) c.worked
        ∧ d = conclude cycles { c with core := c.worked, clock := c.clock.after cycles } := by
  have course := Cpu.Core.course Memory.bus c.core
  cases c.stepping stepped with
  | succeeds _ ran =>
      rw [ran] at course
      rw [worked, ran]
      exact ⟨course, rfl⟩

/-- But for what it announces, that is all. -/
theorem step_ok_eq (stepped : c.step = (.ok cycles, d))
    : ∃ outbox announcedBanks,
        d = { tickTimer cycles { c with core := c.worked, clock := c.clock.after cycles } with
              outbox, announcedBanks } := by
  obtain ⟨-, rfl⟩ := step_ok stepped
  exact conclude_eq _ _

/-- Where the cycles of a step have gone that has led from `c` to `d`. -/
structure Accounted (c : Console) (cycles : Nat) (d : Console) : Prop where
  spent : c.core.Spent cycles c.worked
  /-- The processor itself does no more to the timer than write its registers. -/
  written : Memory.OnlyWritten c.memory.timer (c.worked.interrupts, c.worked.memory)
  clock : d.clock.cycles = c.clock.cycles + cycles
  timer : (d.memory.timer, d.interrupts) = c.worked.memory.timer.tick cycles c.worked.interrupts
  /-- Everything else in the machine is as the processor has left it. -/
  rest : d.cpu = c.worked.cpu ∧ d.memory = { c.worked.memory with timer := d.memory.timer }

/-- Every step that succeeds is accounted for. -/
theorem step_accounted (wellFormed : c.WellFormed) (stepped : c.step = (.ok cycles, d))
    : c.Accounted cycles d := by
  obtain ⟨course, rfl⟩ := step_ok stepped
  obtain ⟨outbox, announcedBanks, concluded⟩ :=
    conclude_eq cycles { c with core := c.worked, clock := c.clock.after cycles }
  have start : Cpu.Core.Within (Memory.OnlyWritten c.memory.timer) c.core :=
    ⟨wellFormed.registers, [], rfl⟩
  rw [concluded]
  exact {
    spent := course.spent
    written := (start.step (Memory.bus_keeps_onlyWritten _)).around
    clock := rfl
    timer := rfl
    rest := ⟨rfl, rfl⟩ }

/-- A blank console with a conditional return in the enable register, which is to be executed next.
-/
def returning : Console :=
  { blank with
    core :=
      { blank.core with
        cpu.registers := { pc := 0xFFFF, sp := 0xFEA0, flags := {} }
        interrupts := { enable := 0xC0 } } }

set_option maxRecDepth 4000 in
/-- Its condition is met, so it costs its second price. -/
theorem step_accounted_returning
    : returning.WellFormed
        ∧ returning.core.instruction? = some (.ret (some .nz))
        ∧ ∃ d, returning.step = (.ok 20, d) ∧ returning.Accounted 20 d := by
  have formed : returning.WellFormed := by
    refine wellFormed_iff.mpr ⟨?_, ⟨by decide, by decide⟩, rfl, rfl, rfl, rfl⟩
    constructor <;> constructor <;> decide
  have answer : returning.step.1 = .ok 20 := rfl
  have stepped : returning.step = (.ok 20, returning.step.2) := by rw [← answer]
  exact ⟨formed, rfl, _, stepped, step_accounted formed stepped⟩

end Console

end Handheld
