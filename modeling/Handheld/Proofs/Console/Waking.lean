import Handheld.Proofs.Console.Dispatch
import Handheld.Proofs.Console.Running
import Handheld.Proofs.Cpu.Enabling
import Handheld.Proofs.Timer.Overflow

/-! How long a console waits for its timer.
A step of a processor that waits moves nothing but the clock and the timer, so the step in which the
counter overflows can be told in advance. The step behind it does not wait any more.
-/

namespace Handheld

open Cpu (Core Instruction)

-----------------------------------------------------------------------------------------
-- The way to the next overflow
-----------------------------------------------------------------------------------------

namespace Timer

variable {t : Timer} {cycles : Nat}

/-- The cycles that bring the counter to its end. The prescaler has counted some of them already. -/
def way (t : Timer) : Nat :=
  (256 - t.tima.toNat) * t.period

/-- On its way the counter takes up what is due, and asks for nothing. -/
theorem tick_onway (inPhase : t.InPhase) (running : t.enabled = true) (interrupts : Interrupts)
    (short : t.prescaler + cycles < t.way)
    : Raised 0 (t, interrupts) (t.tick cycles interrupts)
        ∧ (t.tick cycles interrupts).1.tima.toNat = t.tima.toNat + t.due cycles := by
  have small := t.tima.isLt
  have positive := t.period_pos
  have due : (t.prescaler + cycles) / t.period < (256 - t.tima.toNat : Nat) :=
    Int.ediv_lt_of_lt_mul (by omega) (by rwa [way, Int.natCast_mul] at short)
  have near : t.tima.toNat + t.due cycles ≤ 255 := by
    rw [Timer.due]
    omega
  obtain ⟨none, here⟩ := (pass_reaches inPhase.1 running cycles interrupts).eq_add near
  have raised := pass_raised cycles t interrupts
  rw [none] at raised
  exact ⟨raised, here⟩

/-- The period that ends the way brings one overflow. -/
theorem tick_arrived (inPhase : t.InPhase) (running : t.enabled = true) (interrupts : Interrupts)
    (arrived : t.way ≤ t.prescaler + cycles) (first : t.prescaler + cycles < t.way + t.period)
    : Raised 1 (t, interrupts) (t.tick cycles interrupts)
        ∧ (t.tick cycles interrupts).1.tima = t.tma := by
  have small := t.tima.isLt
  have due : t.due cycles = 256 - t.tima.toNat := by
    have whole : (t.prescaler + cycles) / t.period = (256 - t.tima.toNat : Nat) := by
      rw [way, Int.natCast_mul] at arrived first
      exact (Int.ediv_eq_iff_of_pos (by have := t.period_pos; omega)).mpr ⟨arrived, first⟩
    rw [Timer.due, whole, Int.toNat_natCast]
  have reaches := pass_reaches inPhase.1 running cycles interrupts
  obtain ⟨number, here⟩ := reaches.eq_div_mod (by omega)
  have none : t.tima.toNat + t.due cycles - 256 = 0 := by omega
  rw [none] at number here
  rw [Nat.zero_div] at number
  rw [Nat.zero_mod] at here
  have raised := pass_raised cycles t interrupts
  rw [number] at raised
  exact ⟨raised, BitVec.toNat_inj.mp here⟩

theorem exists_first (t : Timer)
    : ∃ steps, IsLeast { n : Nat | t.way ≤ t.prescaler + (4 * n : Nat) } steps := by
  classical
  have some : ∃ n : Nat, t.way ≤ t.prescaler + (4 * n : Nat) :=
    ⟨(t.way - t.prescaler).toNat, by omega⟩
  exact ⟨Nat.find some, Nat.find_spec some, fun n member => Nat.find_min' some member⟩

end Timer

-----------------------------------------------------------------------------------------
-- A request that ends a wait
-----------------------------------------------------------------------------------------

namespace Interrupts

variable {interrupts : Interrupts} {source : Source}

/-- Where nothing was pending, a request of an enabled source is pending alone. -/
theorem pending_request (calm : interrupts.pending = 0)
    (enabled : interrupts.enable.getLsbD source.priority = true)
    : (interrupts.request source).pending = source.mask := by
  have own : ∀ enable : BitVec 5, enable.getLsbD source.priority = true →
      enable &&& source.mask = source.mask := by
    cases source <;> decide
  have bit : (interrupts.enable.setWidth 5).getLsbD source.priority = true := by
    rw [BitVec.getLsbD_setWidth, enabled, decide_eq_true source.priority_lt]
    rfl
  have split : (interrupts.request source).pending
      = interrupts.pending ||| interrupts.enable.setWidth 5 &&& source.mask :=
    BitVec.and_or_distrib_left
  rw [split, calm, own _ bit]
  exact BitVec.zero_or

theorem highest?_of_alone (alone : interrupts.pending = source.mask)
    : interrupts.highest? = some source := by
  rw [highest?, alone]
  cases source <;> rfl

end Interrupts

namespace Cpu.Core

variable {core after : Core Memory} {outcome : Except Cpu.Fault Nat}

/-- A step has been about the byte at the program counter, and the processor does not wait behind
it. Only `STOP` starts to wait again.
-/
inductive Resumes (core : Core Memory) (outcome : Except Cpu.Fault Nat) (cpu : Cpu) : Prop
  | executes {instruction : Instruction} (next : core.instruction? = some instruction)
      (answer : outcome = .ok (instruction.cost (instruction.taken core.cpu.registers.flags)))
      (active : cpu.activity = .execution instruction) (halted : cpu.halted = false)
      (stopped : cpu.stopped = true ↔ instruction = .stop)
  | faults (undefined : core.opcode ∈ Reference.undefinedOpcodes)
      (answer : outcome = .error { opcode := core.opcode, pc := core.cpu.registers.pc })

/-- An enabled request that must not be served ends a wait all the same. -/
theorem Course.resumes (course : Course Memory.bus core outcome after)
    (off : core.interrupts.master = false) (up : core.interrupts.pending ≠ 0)
    : core.Resumes outcome after.cpu := by
  cases course with
  | waits waiting => exact absurd (idles_iff.mp waiting).2 up
  | serves called first => cases off.symm.trans (interrupted_iff.mp called).1
  | faults awake undisturbed found =>
      obtain ⟨undefined, rfl, -⟩ := fetch_bus_error found
      exact .faults undefined rfl
  | @executes instruction immediate fetched awake undisturbed found =>
      have next := (instruction?_forgotten core).symm.trans (instruction?_of_fetch found)
      have active := (activity_of_record (executed_record found)).2
      have requests : fetched.interrupts = core.interrupts := by
        have kept : Leaves (fun core : Core Memory => core.interrupts) (fetch Memory.bus) :=
          fetch_leaves (fun _ _ => rfl) fun _ _ => rfl
        have same := kept core.forgotten
        rw [found] at same
        exact same
      have awake : fetched.cpu.halted = false ∧ fetched.cpu.stopped = false := by
        rw [fetch_ok found]
        exact ⟨rfl, rfl⟩
      -- `HALT` does not start to wait either, while a request is up.
      have fails : (!fetched.interrupts.master && fetched.interrupts.hasPending) = true := by
        have pending : core.interrupts.hasPending = true := decide_eq_true up
        rw [requests, off, pending]
        rfl
      have latched := run_execute_aside Memory.bus instruction immediate fetched
      rw [fails] at latched
      generalize ((execute Memory.bus instruction immediate).run fetched).2 = executed
        at active latched ⊢
      obtain ⟨halts, stops⟩ := completed_waits executed core.cpu.eiPending
      have halted : _ = (instruction.latch true fetched.aside).halted :=
        halts.trans (congrArg (·.halted) latched)
      have stopped : _ = (instruction.latch true fetched.aside).stopped :=
        stops.trans (congrArg (·.stopped) latched)
      refine .executes next rfl active ?_ ?_
      · rw [halted]
        cases instruction <;> simp [Instruction.latch, aside, awake]
      · rw [stopped]
        cases instruction <;> simp [Instruction.latch, aside, awake]

end Cpu.Core

namespace Console

variable {c d e : Console} {m n steps : Nat}

-----------------------------------------------------------------------------------------
-- Waiting
-----------------------------------------------------------------------------------------

/-- What is left of a console without all that a wait may move: the clock, the counts of the timer,
the requests, the notes of the last step, and what has been announced.
-/
def resting (c : Console) : Console :=
  { c with
    core :=
      { cpu := c.core.forgotten.cpu
        interrupts := {}
        memory :=
          { c.memory with
            timer := { tma := c.memory.timer.tma, tac := c.memory.timer.tac } } }
    clock := {}
    outbox := []
    announcedBanks := (-1, -1) }

/-- For some cycles a console has done nothing. -/
structure Slept (c : Console) (cycles : Nat) (d : Console) : Prop where
  clock : d.clock.cycles = c.clock.cycles + cycles
  ticked : (d.memory.timer, d.interrupts) = c.memory.timer.tick cycles c.interrupts
  rest : d.resting = c.resting
  /-- Nothing is announced, unless every step is. -/
  silent : c.announcing = false → d.outbox = c.outbox ∧ d.announcedBanks = c.announcedBanks

theorem Slept.refl (inPhase : c.memory.timer.InPhase) : c.Slept 0 c where
  clock := (Int.add_zero _).symm
  ticked := (inPhase.tick_zero c.interrupts).symm
  rest := rfl
  silent _ := ⟨rfl, rfl⟩

theorem Slept.trans (inPhase : c.memory.timer.InPhase) (first : c.Slept m d) (later : d.Slept n e)
    : c.Slept (m + n) e where
  clock := by
    rw [later.clock, first.clock, Int.natCast_add, Int.add_assoc]
  ticked := by
    rw [← inPhase.tick_tick, ← first.ticked]
    exact later.ticked
  rest := later.rest.trans first.rest
  silent quiet := by
    have onward : d.announcing = false := (congrArg announcing first.rest).trans quiet
    obtain ⟨outbox, banks⟩ := later.silent onward
    rw [outbox, banks]
    exact first.silent quiet

/-- A step of a processor that waits takes four cycles of sleep. -/
theorem step_slept (healthy : c.fault = none) (waits : c.core.idles = true)
    : c.step.1 = .ok 4 ∧ c.step.2.cpu.activity = .waiting ∧ c.Slept 4 c.step.2 := by
  have ran := Core.run_step_idles Memory.bus waits
  rcases stepped : c.step with ⟨outcome, d⟩
  cases c.stepping stepped with
  | halted faulted => cases healthy.symm.trans faulted
  | fails _ failed => cases ran.symm.trans failed
  | @succeeds cycles core _ rested =>
      obtain ⟨answer, rfl⟩ := Prod.mk.inj (ran.symm.trans rested)
      obtain rfl := Except.ok.inj answer
      let passed := { c with core := c.core.forgotten, clock := c.clock.after 4 }
      have tma := c.memory.timer.tick_tma (4 : Nat) c.interrupts
      have tac := c.memory.timer.tick_tac (4 : Nat) c.interrupts
      have silent : c.announcing = false →
          (conclude 4 passed).outbox = c.outbox
            ∧ (conclude 4 passed).announcedBanks = c.announcedBanks := by
        intro quiet
        have unannounced : conclude 4 passed = tickTimer 4 passed :=
          if_neg (Bool.eq_false_iff.mp quiet)
        rw [unannounced]
        exact ⟨rfl, rfl⟩
      obtain ⟨outbox, announcedBanks, concluded⟩ := conclude_eq 4 passed
      refine ⟨rfl, ?_⟩
      rw [concluded] at silent ⊢
      refine ⟨rfl, rfl, rfl, ?_, silent⟩
      have rest : (tickTimer 4 passed).resting
          = { c.resting with
              core.memory.timer :=
                { tma := (c.memory.timer.tick (4 : Nat) c.interrupts).1.tma
                  tac := (c.memory.timer.tick (4 : Nat) c.interrupts).1.tac } } :=
        rfl
      rw [tma, tac] at rest
      exact rest

/-- As long as the counter is on its way, a console sleeps on. -/
theorem slept_after (inPhase : c.memory.timer.InPhase) (healthy : c.fault = none)
    (waits : c.cpu.halted = true ∨ c.cpu.stopped = true) (calm : c.interrupts.pending = 0)
    (running : c.memory.timer.enabled = true)
    (onway : ∀ i < n, c.memory.timer.prescaler + (4 * i : Nat) < c.memory.timer.way)
    : c.Slept (4 * n) (c.after n)
        ∧ ∀ i < n, (c.after i).step.1 = .ok 4 ∧ (c.after (i + 1)).cpu.activity = .waiting := by
  induction n with
  | zero => exact ⟨.refl inPhase, nofun⟩
  | succ n hypothesis =>
      obtain ⟨slept, idle⟩ := hypothesis fun i less => onway i (Nat.lt_succ_of_lt less)
      -- No request has come up so far, so the next step waits as well.
      obtain ⟨⟨calls, -⟩, -⟩ :=
        c.memory.timer.tick_onway inPhase running c.interrupts (onway n (Nat.lt_succ_self n))
      have quiet : (c.after n).interrupts = c.interrupts :=
        (congrArg Prod.snd slept.ticked).trans calls
      have waiting : (c.after n).core.idles = c.core.idles := by
        have pending : (c.after n).core.interrupts.hasPending = c.core.interrupts.hasPending :=
          congrArg Interrupts.hasPending quiet
        rw [Core.idles, Core.idles, pending]
        exact congrArg (fun d => (d.cpu.halted || d.cpu.stopped) && _) slept.rest
      have healthy' : (c.after n).fault = none := (congrArg fault slept.rest).trans healthy
      obtain ⟨outcome, activity, more⟩ :=
        step_slept healthy' (waiting.trans (Core.idles_iff.mpr ⟨waits, calm⟩))
      rw [after_succ_last]
      refine ⟨slept.trans inPhase more, fun i less => ?_⟩
      rcases Nat.lt_succ_iff_lt_or_eq.mp less with earlier | rfl
      · exact idle i earlier
      · rw [after_succ_last]
        exact ⟨outcome, activity⟩

-----------------------------------------------------------------------------------------
-- Waking up
-----------------------------------------------------------------------------------------

/-- A console without a fault answers as its processor does, which is then left as it is. -/
theorem step_processor (healthy : c.fault = none)
    : c.step.1 = ((Core.step Memory.bus).run c.core).1.mapError .undefinedOpcode
        ∧ c.step.2.cpu = c.worked.cpu := by
  rw [worked]
  rcases stepped : c.step with ⟨outcome, d⟩
  cases c.stepping stepped with
  | halted faulted => cases healthy.symm.trans faulted
  | @fails fault core _ ran =>
      obtain ⟨outbox, kept⟩ := keepFault_eq fault { c with core }
      rw [ran, kept]
      exact ⟨rfl, rfl⟩
  | @succeeds cycles core _ ran =>
      obtain ⟨outbox, announcedBanks, concluded⟩ :=
        conclude_eq cycles { c with core, clock := c.clock.after cycles }
      rw [ran, concluded]
      exact ⟨rfl, rfl⟩

/-- The timer wakes a console up that has waited for some steps, and the step behind them goes on.
-/
structure Wakes (c : Console) (steps : Nat) : Prop where
  idle : ∀ i < steps, (c.after i).step.1 = .ok 4 ∧ (c.after (i + 1)).cpu.activity = .waiting
  slept : ∀ i ≤ steps, c.Slept (4 * i) (c.after i)
  calm
    : ∀ i < steps, (c.after i).interrupts = c.interrupts
        ∧ (c.after i).memory.timer.overflows = c.memory.timer.overflows
        ∧ (c.after i).memory.timer.tima.toNat
          = c.memory.timer.tima.toNat + c.memory.timer.due (4 * i)
  /-- The last step of the wait brings the one request. -/
  roused
    : (c.after steps).interrupts = c.interrupts.request .timer
        ∧ (c.after steps).memory.timer.overflows = c.memory.timer.overflows + 1
        ∧ (c.after steps).memory.timer.tima = c.memory.timer.tma
  serves
    : c.interrupts.master = true →
        (c.after steps).step.1 = .ok 20
          ∧ (c.after (steps + 1)).cpu.activity = .service .timer
          ∧ (c.after (steps + 1)).cpu.registers.pc = 0x50
          ∧ (c.after (steps + 1)).cpu.halted = false ∧ (c.after (steps + 1)).cpu.stopped = false
  resumes
    : c.interrupts.master = false →
        ∃ outcome, (c.after steps).step.1 = outcome.mapError .undefinedOpcode
          ∧ (c.after steps).core.Resumes outcome (c.after (steps + 1)).cpu

/-- A wait for the timer ends with the first step that completes the way of the counter. -/
theorem exists_wakes (formed : c.WellFormed) (healthy : c.fault = none)
    (waits : c.cpu.halted = true ∨ c.cpu.stopped = true) (calm : c.interrupts.pending = 0)
    (enabled : c.interrupts.enable.getLsbD Source.timer.priority = true)
    (running : c.memory.timer.enabled = true)
    : ∃ steps,
        IsLeast { n : Nat | c.memory.timer.way ≤ c.memory.timer.prescaler + (4 * n : Nat) } steps
          ∧ c.Wakes steps := by
  have inPhase := formed.phase
  obtain ⟨steps, first⟩ := c.memory.timer.exists_first
  have onway : ∀ i < steps, c.memory.timer.prescaler + (4 * i : Nat) < c.memory.timer.way :=
    fun i less => not_le.mp fun reached => not_le.mpr less (first.2 reached)
  -- A step is shorter than a period, so the first that completes the way does not go far beyond it.
  have close : c.memory.timer.prescaler + (4 * steps : Nat)
      < c.memory.timer.way + c.memory.timer.period := by
    have long : 4 ≤ c.memory.timer.period := by
      rw [Timer.period]
      split <;> decide
    cases steps with
    | zero =>
        have start := inPhase.2
        omega
    | succ steps =>
        have before := onway steps (Nat.lt_succ_self steps)
        omega
  have sleeps := fun i (atMost : i ≤ steps) =>
    slept_after inPhase healthy waits calm running fun j less =>
      onway j (Nat.lt_of_lt_of_le less atMost)
  have slept := fun i atMost => (sleeps i atMost).1
  obtain ⟨⟨requested, counted⟩, reloaded⟩ :=
    c.memory.timer.tick_arrived inPhase running c.interrupts first.1 close
  have ticked := (slept steps (le_refl steps)).ticked
  rw [← ticked] at requested counted reloaded
  have calls : (c.after steps).interrupts.pending = Source.timer.mask :=
    (congrArg Interrupts.pending requested).trans (Interrupts.pending_request calm enabled)
  have healthy' : (c.after steps).fault = none :=
    (congrArg fault (slept steps (le_refl steps)).rest).trans healthy
  have switch : (c.after steps).interrupts.master = c.interrupts.master :=
    (congrArg Interrupts.master requested :)
  obtain ⟨answer, processor⟩ := step_processor healthy'
  refine ⟨steps, first, ?_⟩
  constructor
  case idle => exact (sleeps steps (le_refl steps)).2
  case slept => exact slept
  case calm =>
    intro i less
    obtain ⟨⟨quiet, counted⟩, here⟩ :=
      c.memory.timer.tick_onway inPhase running c.interrupts (onway i less)
    rw [← (slept i less.le).ticked] at quiet counted here
    exact ⟨quiet, counted.trans (Int.add_zero _), here⟩
  case roused => exact ⟨requested, counted, reloaded⟩
  case serves =>
    intro on
    have called : (c.after steps).Calls .timer :=
      ⟨healthy', switch.trans on, Interrupts.highest?_of_alone calls⟩
    rw [called.worked] at processor
    rw [after_succ_last, processor]
    exact ⟨called.step_fst, processor ▸ called.activity, rfl, rfl, rfl⟩
  case resumes =>
    intro off
    have up : (c.after steps).interrupts.pending ≠ 0 := by
      rw [calls]
      decide
    rw [after_succ_last, processor]
    exact ⟨_, answer, (Core.course Memory.bus _).resumes (switch.trans off) up⟩

/-- A blank console that waits for the timer with the master switch off. Its counter is about to
overflow.
-/
def drowsy : Console :=
  { blank with
    core :=
      { blank.core with
        cpu := { halted := true, registers.pc := 0x150 }
        interrupts := { enable := 4, requests := 0x1B }
        memory.timer := { tima := 0xFF, tma := 0xFE, tac := 5, prescaler := 3 } } }

/-- One period brings the overflow, and the fourth step completes it. -/
theorem exists_wakes_drowsy
    : drowsy.WellFormed ∧ drowsy.interrupts.pending = 0 ∧ drowsy.memory.timer.way = 16
        ∧ drowsy.Wakes 4 := by
  have formed : drowsy.WellFormed := by
    refine wellFormed_iff.mpr ⟨?_, ⟨by decide, by decide⟩, rfl, rfl, rfl, rfl⟩
    constructor <;> constructor <;> decide
  have calm : drowsy.interrupts.pending = 0 := by decide
  have way : drowsy.memory.timer.way = 16 := by decide
  have started : drowsy.memory.timer.prescaler = 3 := rfl
  obtain ⟨steps, first, wakes⟩ := exists_wakes formed rfl (.inl rfl) calm (by decide) (by decide)
  rw [way, started] at first
  have fourth : IsLeast { n : Nat | (16 : Nat) ≤ (3 : Int) + (4 * n : Nat) } 4 := by
    refine ⟨by decide, fun n (member : (16 : Nat) ≤ (3 : Int) + (4 * n : Nat)) => ?_⟩
    omega
  obtain rfl := first.unique fourth
  exact ⟨formed, calm, way, wakes⟩

end Console

end Handheld
