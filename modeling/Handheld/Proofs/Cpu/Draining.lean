import Handheld.Proofs.Console.Course
import Handheld.Proofs.Cpu.Exclusion
import Handheld.Proofs.Cpu.Serving
import Handheld.Proofs.Cpu.Stack

/-! Interrupts whose routines return at once.
They are served one after the other, without an instruction of the program in between, and nothing
is left of them but two bytes below the stack.
-/

namespace Handheld

-----------------------------------------------------------------------------------------
-- Who is waiting
-----------------------------------------------------------------------------------------

theorem Source.all_ordered : Source.all.Pairwise fun a b => a.priority < b.priority := by
  decide

theorem Source.mem_all (source : Source) : source ∈ Source.all := by
  cases source <;> decide

namespace Interrupts

variable {interrupts : Interrupts} {source : Source}

/-- The sources that are to be served, the first in front. -/
def callers (interrupts : Interrupts) : List Source :=
  Source.all.filter fun source => interrupts.pending.getLsbD source.priority

theorem mem_callers
    : source ∈ interrupts.callers ↔ interrupts.pending.getLsbD source.priority = true := by
  rw [callers, List.mem_filter]
  exact and_iff_right (Source.mem_all source)

theorem callers_ordered (interrupts : Interrupts)
    : interrupts.callers.Pairwise fun a b => a.priority < b.priority :=
  Source.all_ordered.filter _

theorem highest?_eq_head? (interrupts : Interrupts)
    : interrupts.highest? = interrupts.callers.head? :=
  List.head?_filter.symm

theorem callers_eq_nil_iff : interrupts.callers = [] ↔ interrupts.pending = 0 := by
  have search : ∀ pending : BitVec 5,
      (Source.all.filter fun source => pending.getLsbD source.priority) = [] ↔ pending = 0 := by
    decide
  exact search interrupts.pending

theorem pending_acknowledge (interrupts : Interrupts) (source : Source) (bit : Nat)
    : (interrupts.acknowledge source).pending.getLsbD bit
      = (interrupts.pending.getLsbD bit && bit != source.priority) := by
  have enabled : (interrupts.acknowledge source).enable = interrupts.enable := rfl
  rw [pending, BitVec.getLsbD_and, requests_acknowledge, enabled, ← Bool.and_assoc,
    ← BitVec.getLsbD_and, ← pending]

/-- Whoever has been served does not wait any longer, and all others do. -/
theorem callers_acknowledge {others : List Source} (first : interrupts.callers = source :: others)
    : (interrupts.acknowledge source).callers = others := by
  have behind : ∀ other ∈ others, other.priority ≠ source.priority := by
    have ordered := interrupts.callers_ordered
    rw [first] at ordered
    exact fun other among => Nat.ne_of_gt (List.rel_of_pairwise_cons ordered among)
  calc (interrupts.acknowledge source).callers
      = interrupts.callers.filter fun other => other.priority != source.priority := by
        simp only [callers, pending_acknowledge, List.filter_filter, Bool.and_comm]
    _ = others := by
        rw [first, List.filter_cons_of_neg (by simp), List.filter_eq_self]
        simpa using behind

/-- What is left of the requests when everybody has been served is left as well if the first of them
has been served before.
-/
theorem requests_left (up : source ∈ interrupts.callers)
    : (interrupts.acknowledge source).requests &&& ~~~(interrupts.acknowledge source).pending
      = interrupts.requests &&& ~~~interrupts.pending := by
  refine BitVec.eq_of_getLsbD_eq fun bit bound => ?_
  simp only [BitVec.getLsbD_and, BitVec.getLsbD_not, requests_acknowledge, pending_acknowledge]
  by_cases own : bit = source.priority
  · rw [own, mem_callers.mp up]
    simp
  · have apart : (bit != source.priority) = true := bne_iff_ne.mpr own
    simp [apart]

end Interrupts

namespace Cpu

-----------------------------------------------------------------------------------------
-- Diaries
-----------------------------------------------------------------------------------------

namespace Core

variable {μ : Type}

/-- How some steps come out, what each of them is spent on, and the processor behind them. -/
def diary (bus : Bus μ) : Nat → Core μ → List (Except Fault Nat × Activity) × Core μ
  | 0, core => ([], core)
  | count + 1, core =>
    let (outcome, next) := (step bus).run core
    let (later, last) := diary bus count next
    ((outcome, next.cpu.activity) :: later, last)

/-- A step that serves an interrupt and one that returns from its routine. -/
def round (source : Source) : List (Except Fault Nat × Activity) :=
  [(.ok 20, .service source), (.ok 16, .execution .reti)]

-----------------------------------------------------------------------------------------
-- One round
-----------------------------------------------------------------------------------------

variable {core : Core FlatRam} {source : Source}

/-- The processor on its way, with the address to return to on the stack. -/
def serving (core : Core FlatRam) (source : Source) : Core FlatRam where
  cpu := { core.forgotten.diverted source with
    registers.sp := (core.cpu.registers.sp - 2) % 65536 }
  interrupts := (core.interrupts.setMaster false).acknowledge source
  memory := core.memory.stack core.cpu.registers.sp core.returnAddress

theorem run_step_serving (enabled : core.interrupts.master = true)
    (first : core.interrupts.highest? = some source)
    : (step FlatRam.bus).run core = (.ok 20, core.serving source) := by
  have pushed := run_push core.returnAddress core
  have served : (dispatch FlatRam.bus source).run core.forgotten
      = (20, {
          cpu := { core.forgotten.diverted source with
            registers.sp := ((push FlatRam.bus core.returnAddress).run core).2.cpu.registers.sp }
          interrupts := (core.interrupts.setMaster false).acknowledge source
          memory := ((push FlatRam.bus core.returnAddress).run core).2.memory }) := rfl
  rw [run_step_dispatches FlatRam.bus enabled first, served, pushed]
  rfl

theorem run_reti (immediate : Int) (core : Core FlatRam)
    : (execute FlatRam.bus .reti immediate).run core
      = (false, {
          cpu := { core.cpu with
            registers.sp := (core.cpu.registers.sp + 2) % 65536
            registers.pc := core.memory.word core.cpu.registers.sp }
          interrupts := core.interrupts.setMaster true
          memory := core.memory }) := by
  have popped := run_pop core
  have ran : (execute FlatRam.bus .reti immediate).run core
      = (false, {
          cpu := { ((pop FlatRam.bus).run core).2.cpu with
            registers.pc := ((pop FlatRam.bus).run core).1 }
          interrupts := ((pop FlatRam.bus).run core).2.interrupts.setMaster true
          memory := ((pop FlatRam.bus).run core).2.memory }) := rfl
  rw [ran, popped]

theorem run_fetch_reti (core : Core FlatRam)
    (returns : core.memory.get core.cpu.registers.pc = 0xD9)
    : (fetch FlatRam.bus).run core
      = (.ok (.reti, 0), { core with cpu := core.advanced .reti core.roused.cpu }) := by
  have decoded : Chart.decode? (Byte.ofInt (core.opened FlatRam.bus).1) = some .reti := by
    have opcode : Byte.ofInt (core.opened FlatRam.bus).1 = 0xD9 :=
      (Byte.ofInt_value _).trans returns
    rw [opcode]
    decide +kernel
  rw [run_fetch_defined decoded]
  rfl

/-- The return from a routine takes a step if no latch is set and no interrupt disturbs it. -/
theorem run_step_reti (off : core.interrupts.master = false)
    (latches : core.cpu.latches = [false, false, false, false])
    (returns : core.memory.get core.cpu.registers.pc = 0xD9)
    : (step FlatRam.bus).run core
      = (.ok 16, {
          cpu := { core.cpu with
            registers.sp := (core.cpu.registers.sp + 2) % 65536
            registers.pc := core.memory.word core.cpu.registers.sp
            instructionCount := core.cpu.instructionCount + 1
            lastInstruction := some .reti
            lastInterrupt := none }
          interrupts := core.interrupts.setMaster true
          memory := core.memory }) := by
  obtain ⟨halted, stopped, haltBug, eiPending⟩ : core.cpu.halted = false
      ∧ core.cpu.stopped = false ∧ core.cpu.haltBug = false ∧ core.cpu.eiPending = false := by
    simpa [Cpu.latches] using latches
  have awake : core.idles = false := by
    rw [idles, halted, stopped, Bool.or_self, Bool.false_and]
  have undisturbed : core.interrupted = false := by
    rw [interrupted, off, Bool.false_and]
  have fetched := run_fetch_reti core.forgotten returns
  have calm : core.forgotten.cpu.eiPending = false := eiPending
  rw [run_step_executes FlatRam.bus awake undisturbed, run_executeNext fetched, run_reti,
    completed_plain (by rw [calm, Bool.false_and])]
  obtain ⟨⟨registers, _, _, _, _, _, _, _⟩, interrupts, ram⟩ := core
  dsimp only at halted stopped haltBug eiPending
  subst halted stopped haltBug eiPending
  rfl

/-- The processor behind a round. Nothing but its notes, the two bytes and the request tell that it
has been away.
-/
def returned (core : Core FlatRam) (source : Source) : Core FlatRam where
  cpu := { core.cpu with
    halted := false
    stopped := false
    eiPending := false
    instructionCount := core.cpu.instructionCount + 1
    lastInstruction := some .reti
    lastInterrupt := none }
  interrupts := core.interrupts.acknowledge source
  memory := core.memory.stack core.cpu.registers.sp core.cpu.registers.pc

theorem returned_latches (haltBug : core.cpu.haltBug = false) (source : Source)
    : (core.returned source).cpu.latches = [false, false, false, false] := by
  have latches : (core.returned source).cpu.latches = [false, false, core.cpu.haltBug, false] := rfl
  rw [latches, haltBug]

/-- All routines that are waited for do nothing but return, and the return address fits on the stack
besides them. A processor that repeats an instruction would return to another address.
-/
structure Returning (core : Core FlatRam) : Prop where
  sp : IsWord core.cpu.registers.sp
  pc : IsWord core.cpu.registers.pc
  haltBug : core.cpu.haltBug = false
  enabled : core.interrupts.master = true
  routine : ∀ source ∈ core.interrupts.callers, core.memory.get source.vector = 0xD9
  apart
    : ∀ source ∈ core.interrupts.callers, ¬FlatRam.Below core.cpu.registers.sp 2 source.vector

variable {others : List Source}

theorem Returning.returned (returning : core.Returning)
    (first : core.interrupts.callers = source :: others)
    : (core.returned source).Returning := by
  have fewer : ∀ other ∈ (core.returned source).interrupts.callers,
      other ∈ core.interrupts.callers := by
    rw [show (core.returned source).interrupts = core.interrupts.acknowledge source from rfl,
      Interrupts.callers_acknowledge first, first]
    exact fun other => List.mem_cons_of_mem source
  exact {
    sp := returning.sp
    pc := returning.pc
    haltBug := returning.haltBug
    enabled := returning.enabled
    routine := fun other among => by
      rw [← returning.routine other (fewer other among)]
      exact core.memory.get_stack_off (returning.apart other (fewer other among)) _
    apart := fun other among => returning.apart other (fewer other among) }

/-- The routine takes the processor back to where it was. -/
theorem Returning.served_returns (returning : core.Returning)
    (first : core.interrupts.callers = source :: others)
    : (step FlatRam.bus).run (core.serving source) = (.ok 16, core.returned source) := by
  have among : source ∈ core.interrupts.callers := first ▸ List.mem_cons_self
  obtain ⟨sp, pc, haltBug, enabled, routine, apart⟩ := returning
  have here : core.returnAddress = core.cpu.registers.pc := by
    rw [returnAddress, haltBug]
    rfl
  have returns : (core.serving source).memory.get (core.serving source).cpu.registers.pc = 0xD9 :=
    (core.memory.get_stack_off (apart source among) _).trans (routine source among)
  have back : ((core.serving source).cpu.registers.sp + 2) % 65536 = core.cpu.registers.sp := by
    change ((core.cpu.registers.sp - 2) % 65536 + 2) % 65536 = _
    obtain ⟨low, high⟩ := sp
    omega
  have address : (core.serving source).memory.word (core.serving source).cpu.registers.sp
      = core.cpu.registers.pc := by
    change (core.memory.stack core.cpu.registers.sp core.returnAddress).word
      ((core.cpu.registers.sp - 2) % 65536) = _
    rw [FlatRam.word_emod, FlatRam.word_stack, here]
    exact Int.emod_eq_of_lt pc.1 pc.2
  rw [run_step_reti rfl rfl returns, back, address]
  obtain ⟨⟨registers, _, _, _, _, _, _, _⟩, ⟨_, _, _, _⟩, ram⟩ := core
  dsimp only at haltBug enabled
  subst haltBug enabled
  rfl

theorem Returning.diary_round (returning : core.Returning)
    (first : core.interrupts.callers = source :: others) (count : Nat)
    : diary FlatRam.bus (count + 2) core
      = (round source ++ (diary FlatRam.bus count (core.returned source)).1,
          (diary FlatRam.bus count (core.returned source)).2) := by
  have highest : core.interrupts.highest? = some source := by
    rw [Interrupts.highest?_eq_head?, first, List.head?_cons]
  rw [diary, run_step_serving returning.enabled highest]
  dsimp only
  rw [diary, returning.served_returns first]
  rfl

-----------------------------------------------------------------------------------------
-- All rounds
-----------------------------------------------------------------------------------------

/-- Nobody waits any longer and no latch is set. All registers are as before, and so is the memory
save for the two cells below the stack.
-/
structure Drained (core after : Core FlatRam) : Prop where
  registers : after.cpu.registers = core.cpu.registers
  latches : after.cpu.latches = [false, false, false, false]
  interrupts
    : after.interrupts = { core.interrupts with
        requests := core.interrupts.requests &&& ~~~core.interrupts.pending }
  ram
    : ∀ address, ¬FlatRam.Below core.cpu.registers.sp 2 address →
        after.memory.get address = core.memory.get address

theorem Drained.of_returned {after : Core FlatRam} (up : source ∈ core.interrupts.callers)
    (later : (core.returned source).Drained after)
    : core.Drained after where
  registers := later.registers
  latches := later.latches
  interrupts := by
    rw [later.interrupts, ← Interrupts.requests_left up]
    rfl
  ram := fun address off =>
    (later.ram address off).trans (core.memory.get_stack_off off core.cpu.registers.pc)

/-- What the steps behind the first round come to, all steps come to. -/
theorem Returning.extend {after : Core FlatRam} (returning : core.Returning)
    (first : core.interrupts.callers = source :: others)
    (later
      : diary FlatRam.bus (2 * others.length) (core.returned source) = (others.flatMap round, after)
          ∧ (core.returned source).Drained after)
    : diary FlatRam.bus (2 * (source :: others).length) core
          = ((source :: others).flatMap round, after)
        ∧ core.Drained after := by
  obtain ⟨noted, drained⟩ := later
  refine ⟨?_, drained.of_returned (first ▸ List.mem_cons_self)⟩
  rw [List.length_cons, Nat.mul_succ, returning.diary_round first, noted, List.flatMap_cons]

/-- Without latches there are as many rounds as sources are waiting, be there none. -/
theorem Returning.drained {sources : List Source} (returning : core.Returning)
    (latches : core.cpu.latches = [false, false, false, false])
    (waiting : core.interrupts.callers = sources)
    : ∃ after,
        diary FlatRam.bus (2 * sources.length) core = (sources.flatMap round, after)
          ∧ core.Drained after := by
  induction sources generalizing core with
  | nil =>
      have calm : core.interrupts.requests &&& ~~~core.interrupts.pending
          = core.interrupts.requests := by
        rw [Interrupts.callers_eq_nil_iff.mp waiting]
        exact BitVec.and_allOnes
      refine ⟨core, rfl, rfl, latches, ?_, fun _ _ => rfl⟩
      rw [calm]
  | cons source others ih =>
      obtain ⟨after, later⟩ := ih (returning.returned waiting)
        (returned_latches returning.haltBug source) (Interrupts.callers_acknowledge waiting)
      exact ⟨after, returning.extend waiting later⟩

/-- The cycles of all steps that come out well. -/
def spent : List (Except Fault Nat × Activity) → Nat
  | [] => 0
  | (.ok cycles, _) :: later => cycles + spent later
  | (.error _, _) :: later => spent later

theorem spent_rounds (sources : List Source)
    : spent (sources.flatMap round) = 36 * sources.length := by
  induction sources with
  | nil => rfl
  | cons source others ih =>
      have first : spent (round source ++ others.flatMap round)
          = 20 + (16 + spent (others.flatMap round)) :=
        rfl
      rw [List.flatMap_cons, first, ih, List.length_cons]
      omega

/-- Interrupts whose routines return at once are served one after the other, whether the processor
was running or waiting. No instruction of the program comes in between, and it goes on as if nothing
had happened.
-/
theorem interrupts_drain (returning : core.Returning) (called : core.interrupts.pending ≠ 0)
    : let sources := core.interrupts.callers
      let run := diary FlatRam.bus (2 * sources.length) core
      (sources.Pairwise fun first later => first.priority < later.priority)
        ∧ (∀ source, source ∈ sources
            ↔ core.interrupts.pending.getLsbD source.priority = true)
        ∧ run.1 = sources.flatMap round
        ∧ spent run.1 = 36 * sources.length
        ∧ run.2.interrupts.master = true
        ∧ core.Drained run.2 := by
  intro sources run
  obtain ⟨source, others, first⟩ := List.exists_cons_of_ne_nil
    (mt Interrupts.callers_eq_nil_iff.mp called)
  -- The latches of the start are gone behind the first round.
  obtain ⟨after, later⟩ := (returning.returned first).drained
    (returned_latches returning.haltBug source) (Interrupts.callers_acknowledge first)
  obtain ⟨noted, drained⟩ := returning.extend first later
  have whole : run = (sources.flatMap round, after) := by
    rw [show sources = source :: others from first, ← noted, ← first]
  rw [whole]
  refine ⟨core.interrupts.callers_ordered, fun _ => Interrupts.mem_callers, rfl,
    spent_rounds _, ?_, drained⟩
  rw [drained.interrupts]
  exact returning.enabled

/-- A halted processor with three of four requests enabled, over a memory full of returns. Its stack
pointer is such that the return address lies on both ends of the memory.
-/
def resting : Core FlatRam where
  cpu := { registers := { pc := 0x1234, sp := 1 }, halted := true, eiPending := true }
  interrupts := { enable := 0x15, requests := 0x1D, master := true }
  memory := Vector.replicate 65536 0xD9

theorem resting_returning : resting.Returning where
  sp := ⟨by decide, by decide⟩
  pc := ⟨by decide, by decide⟩
  haltBug := rfl
  enabled := rfl
  routine := fun _ _ => Vector.getElem_replicate _
  apart := by decide

/-- Three rounds take it through its requests, and the one that is not enabled stays. -/
theorem interrupts_drain_resting
    : resting.Returning ∧ resting.interrupts.pending ≠ 0
        ∧ resting.interrupts.callers = [.vblank, .timer, .joypad]
        ∧ let run := diary FlatRam.bus 6 resting
          run.1 = [
              (.ok 20, .service .vblank), (.ok 16, .execution .reti),
              (.ok 20, .service .timer), (.ok 16, .execution .reti),
              (.ok 20, .service .joypad), (.ok 16, .execution .reti)]
            ∧ spent run.1 = 108
            ∧ run.2.interrupts.requests = 0x08
            ∧ run.2.interrupts.master = true
            ∧ resting.Drained run.2 := by
  have called : resting.interrupts.pending ≠ 0 := by decide
  have waiting : resting.interrupts.callers = [.vblank, .timer, .joypad] := rfl
  obtain ⟨-, -, noted, paid, enabled, drained⟩ := interrupts_drain resting_returning called
  have steps : 2 * resting.interrupts.callers.length = 6 := rfl
  rw [steps] at noted paid enabled drained
  refine ⟨resting_returning, called, waiting, noted, paid, ?_, enabled, drained⟩
  rw [drained.interrupts]
  rfl

end Core

end Cpu

end Handheld
