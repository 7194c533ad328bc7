import Handheld.Console.Step
import Handheld.Proofs.Cpu.Invariant

/-! What a step of a console comes to.
A step is refused, fails in the processor, or ends with the timer. What every step keeps is kept by a
run as well.
-/

namespace Handheld.Console

variable {c d : Console} {outcome : Except Error Nat}

-----------------------------------------------------------------------------------------
-- What is announced
-----------------------------------------------------------------------------------------

/-- An announcement changes nothing but what is to be delivered and what was announced last. -/
theorem announceStep_eq (cycles : Nat) (overflows : Int) (c : Console)
    : ∃ outbox announcedBanks,
        c.announceStep cycles overflows = { c with outbox, announcedBanks } := by
  rw [announceStep]
  split <;> exact ⟨_, _, rfl⟩

/-- Clock and timer see the cycles of a step after everything that the processor has done. -/
theorem conclude_eq (cycles : Nat) (c : Console)
    : ∃ outbox announcedBanks,
        c.conclude cycles = { tickTimer cycles c with outbox, announcedBanks } :=
  announceStep_eq _ _ _

theorem keepFault_eq (fault : Cpu.Fault) (c : Console)
    : ∃ outbox, c.keepFault fault = { c with fault := some fault, outbox } := by
  rw [keepFault]
  dsimp only
  split <;> exact ⟨_, rfl⟩

-----------------------------------------------------------------------------------------
-- Steps
-----------------------------------------------------------------------------------------

/-- What a step comes to: its outcome, and the console behind it. -/
inductive Stepping (c : Console) : Except Error Nat → Console → Prop
  | halted {fault : Cpu.Fault} (faulted : c.fault = some fault)
    : Stepping c (.error (.halted fault)) c
  | fails {fault : Cpu.Fault} {core : Cpu.Core Memory} (healthy : c.fault = none)
    (ran : (Cpu.Core.step Memory.bus).run c.core = (.error fault, core))
    : Stepping c (.error (.undefinedOpcode fault)) (keepFault fault { c with core })
  | succeeds {cycles : Nat} {core : Cpu.Core Memory} (healthy : c.fault = none)
    (ran : (Cpu.Core.step Memory.bus).run c.core = (.ok cycles, core))
    : Stepping c (.ok cycles) (conclude cycles { c with core, clock := c.clock.after cycles })

/-- Every step comes to one of these. -/
theorem stepping (stepped : c.step = (outcome, d)) : c.Stepping outcome d := by
  rw [step] at stepped
  cases fault : c.fault with
  | some fault' =>
      rw [fault] at stepped
      obtain ⟨rfl, rfl⟩ := Prod.mk.inj stepped
      exact .halted fault
  | none =>
      simp only [fault, Cpu.Clocked.step] at stepped
      cases ran : (Cpu.Core.step Memory.bus).run c.core with
      | mk result core =>
          rw [ran] at stepped
          dsimp only at stepped
          cases result with
          | error undefined =>
              obtain ⟨rfl, rfl⟩ := Prod.mk.inj stepped
              rw [← fault]
              exact .fails fault ran
          | ok cycles =>
              obtain ⟨rfl, rfl⟩ := Prod.mk.inj stepped
              rw [← fault]
              exact .succeeds fault ran

/-- Two consoles take the same step if their processors do. They are related behind it if they are
so in each case.
-/
theorem step_together {R : Console → Console → Prop} (faults : c.fault = d.fault)
    (outcomes
      : ((Cpu.Core.step Memory.bus).run c.core).1 = ((Cpu.Core.step Memory.bus).run d.core).1)
    (halted : R c d)
    (failed
      : ∀ fault,
        R (keepFault fault { c with core := ((Cpu.Core.step Memory.bus).run c.core).2 })
          (keepFault fault { d with core := ((Cpu.Core.step Memory.bus).run d.core).2 }))
    (succeeded
      : ∀ cycles,
        R (conclude cycles { c with
            core := ((Cpu.Core.step Memory.bus).run c.core).2, clock := c.clock.after cycles })
          (conclude cycles { d with
            core := ((Cpu.Core.step Memory.bus).run d.core).2, clock := d.clock.after cycles }))
    : c.step.1 = d.step.1 ∧ R c.step.2 d.step.2 := by
  cases left : c.step with
  | mk outcome c' =>
  cases right : d.step with
  | mk outcome' d' =>
  cases c.stepping left with
  | halted faulted =>
      cases d.stepping right with
      | halted faulted' =>
          obtain rfl := Option.some.inj (faulted.symm.trans (faults.trans faulted'))
          exact ⟨rfl, halted⟩
      | fails healthy _ | succeeds healthy _ => simp [faults, healthy] at faulted
  | fails healthy ran =>
      cases d.stepping right with
      | halted faulted => simp [faults, faulted] at healthy
      | fails _ ran' =>
          rw [ran, ran'] at outcomes failed
          obtain rfl := Except.error.inj outcomes
          exact ⟨rfl, failed _⟩
      | succeeds _ ran' =>
          rw [ran, ran'] at outcomes
          cases outcomes
  | succeeds healthy ran =>
      cases d.stepping right with
      | halted faulted => simp [faults, faulted] at healthy
      | fails _ ran' =>
          rw [ran, ran'] at outcomes
          cases outcomes
      | succeeds _ ran' =>
          rw [ran, ran'] at outcomes succeeded
          obtain rfl := Except.ok.inj outcomes
          exact ⟨rfl, succeeded _⟩

/-- No step breaks what accesses and passing cycles keep, or brings a register out of range. -/
theorem step_within {P : Interrupts × Memory → Prop} (keeps : Memory.bus.Keeps P)
    (ticks : ∀ {c}, c.core.Within P → ∀ cycles, (tickTimer cycles c).core.Within P)
    (within : c.core.Within P)
    : c.step.2.core.Within P := by
  have worked := within.step keeps
  generalize stepped : c.step = behind
  obtain ⟨outcome, d⟩ := behind
  cases c.stepping stepped with
  | halted _ => exact within
  | @fails fault core _ ran =>
      obtain ⟨outbox, kept⟩ := keepFault_eq fault { c with core }
      rw [ran] at worked
      rw [kept]
      exact worked
  | @succeeds cycles core _ ran =>
      obtain ⟨outbox, announcedBanks, concluded⟩ :=
        conclude_eq cycles { c with core, clock := c.clock.after cycles }
      rw [ran] at worked
      rw [concluded]
      exact ticks worked cycles

-----------------------------------------------------------------------------------------
-- Runs
-----------------------------------------------------------------------------------------

/-- A run keeps what every step keeps, if it does not depend on a request to stop. -/
theorem runFrom_keeps {I : Console → Prop} (stepped : ∀ {c}, I c → I c.step.2)
    (stopped : ∀ {c}, I c → I { c with stopRequested := false }) (limits : Limits)
    (patience taken : Nat) (holds : I c)
    : I (runner.runFrom limits patience taken c).2 := by
  induction patience generalizing c taken with
  | zero => exact holds
  | succ patience hypothesis =>
      have next := stepped holds
      rw [Runner.runFrom]
      split
      · exact holds
      split
      · exact stopped holds
      have answer : runner.step c = (c.step.1, c.step.2) := rfl
      rw [answer]
      cases c.step.1 with
      | ok cycles => exact hypothesis (taken + 1) next
      | error error => exact next

end Handheld.Console
