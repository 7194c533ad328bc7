import Handheld.Proofs.Cpu.Course

/-! What it takes to serve an interrupt.
The return address goes on the stack while the request is still up, and the two writes may change
the interrupt controller before the request is cleared.
-/

namespace Handheld

theorem Source.priority_lt (source : Source) : source.priority < 5 := by
  cases source <;> decide

namespace Interrupts

variable {interrupts : Interrupts} {source : Source}

/-- The source that is served first is the one with the lowest of the bits that are up. -/
theorem highest?_lowest (first : interrupts.highest? = some source)
    : interrupts.pending.getLsbD source.priority = true
        ∧ ∀ bit < source.priority, interrupts.pending.getLsbD bit = false := by
  have search : ∀ pending : BitVec 5,
      (Source.all.find? fun source => pending.getLsbD source.priority) = some source →
        pending.getLsbD source.priority = true
          ∧ ∀ bit < source.priority, pending.getLsbD bit = false := by
    cases source <;> decide
  exact search interrupts.pending first

/-- An acknowledgement clears one bit, and no other. -/
theorem requests_acknowledge (interrupts : Interrupts) (source : Source) (bit : Nat)
    : (interrupts.acknowledge source).requests.getLsbD bit
      = (interrupts.requests.getLsbD bit && bit != source.priority) := by
  have small : ∀ requests : BitVec 5, ∀ bit < 5,
      (requests &&& ~~~source.mask).getLsbD bit
        = (requests.getLsbD bit && bit != source.priority) := by
    cases source <;> decide
  by_cases bound : bit < 5
  · exact small interrupts.requests bit bound
  · rw [BitVec.getLsbD_of_ge _ _ (by omega), BitVec.getLsbD_of_ge _ _ (by omega)]
    rfl

end Interrupts

namespace Cpu.Core

variable {μ : Type}

/-- Where the routine of an interrupt returns to. Behind a `HALT` that failed to wait this is the
`HALT` itself.
-/
def returnAddress (core : Core μ) : Int :=
  if core.cpu.haltBug then (core.cpu.registers.pc - 1) % 65536 else core.cpu.registers.pc

/-- The processor with all latches off, at the routine of a source. -/
def diverted (core : Core μ) (source : Source) : Cpu :=
  { core.cpu with
    registers.sp := ((core.cpu.registers.sp - 1) % 65536 - 1) % 65536
    registers.pc := source.vector
    halted := false
    stopped := false
    haltBug := false
    eiPending := false
    lastInterrupt := some source }

/-- What surrounds the processor behind the two writes to the stack, the high byte first. -/
def stacked (bus : Bus μ) (core : Core μ) : Interrupts × μ :=
  let high := (core.cpu.registers.sp - 1) % 65536
  let written := bus.write high (core.returnAddress / 256 % 256)
    (core.interrupts.setMaster false) core.memory
  bus.write ((high - 1) % 65536) (core.returnAddress % 256) written.1 written.2

theorem run_dispatch (bus : Bus μ) (source : Source) (core : Core μ)
    : (dispatch bus source).run core
      = (20,
          { cpu := core.diverted source
            interrupts := (core.stacked bus).1.acknowledge source
            memory := (core.stacked bus).2 }) :=
  rfl

end Cpu.Core

end Handheld
