import Handheld.Proofs.Console.Course
import Handheld.Proofs.Cpu.Monitoring
import Handheld.Proofs.Cpu.Serving
import Handheld.Proofs.Memory.Signals

/-! Interrupts that a console serves.
An enabled request is served in the next step, whatever the processor was waiting for. Off the
devices the stack cannot interfere, so that just one request is cleared before the timer runs on.
-/

namespace Handheld.Console

open Cpu (Access)
open Memory (OffDevices)

variable {c d : Console} {source : Source}

/-- What a step hands to the bus, in order. A console with a fault takes no step. -/
def accesses (c : Console) : List Access :=
  match c.fault with
  | some _ => []
  | none =>
    ((Cpu.Core.step Memory.bus.monitored).run c.core.monitored).2.memory.accesses.reverse

theorem accesses_healthy (healthy : c.fault = none)
    : c.accesses
      = ((Cpu.Core.step Memory.bus.monitored).run c.core.monitored).2.memory.accesses.reverse := by
  rw [accesses, healthy]

-----------------------------------------------------------------------------------------
-- Calls
-----------------------------------------------------------------------------------------

/-- A source is to be served in the next step. -/
structure Calls (c : Console) (source : Source) : Prop where
  healthy : c.fault = none
  enabled : c.interrupts.master = true
  first : c.interrupts.highest? = some source

theorem exists_calls (healthy : c.fault = none) (enabled : c.interrupts.master = true)
    (up : c.interrupts.pending ≠ 0)
    : ∃ source, c.Calls source := by
  have pending : c.interrupts.hasPending = true := decide_eq_true up
  obtain ⟨source, first⟩ := Interrupts.exists_highest? pending
  exact ⟨source, healthy, enabled, first⟩

/-- The processor of a console that is called is diverted. -/
theorem Calls.worked (calls : c.Calls source)
    : c.worked
      = { cpu := c.core.forgotten.diverted source
          interrupts := (c.core.stacked Memory.bus).1.acknowledge source
          memory := (c.core.stacked Memory.bus).2 } := by
  rw [Console.worked, Cpu.Core.run_step_dispatches Memory.bus calls.enabled calls.first]
  rfl

theorem Calls.step_fst (calls : c.Calls source) : c.step.1 = .ok 20 := by
  have ran := Cpu.Core.run_step_dispatches Memory.bus calls.enabled calls.first
  generalize stepped : c.step = behind
  obtain ⟨outcome, d⟩ := behind
  cases c.stepping stepped with
  | halted faulted =>
      rw [calls.healthy] at faulted
      cases faulted
  | fails _ failed => cases ran.symm.trans failed
  | succeeds _ served =>
      have same := Except.ok.inj (Prod.mk.inj (served.symm.trans ran)).1
      exact congrArg Except.ok same

theorem Calls.activity (calls : c.Calls source) : c.step.2.cpu.activity = .service source := by
  have stepped : c.step = (.ok 20, c.step.2) := Prod.ext calls.step_fst rfl
  obtain ⟨outbox, announcedBanks, concluded⟩ := step_ok_eq stepped
  rw [concluded]
  exact congrArg (·.cpu.activity) calls.worked

/-- Two writes are all that the bus sees of it. -/
theorem Calls.accesses (calls : c.Calls source)
    : c.accesses
      = let high := (c.cpu.registers.sp - 1) % 65536
        [.write high (c.core.returnAddress / 256 % 256),
          .write ((high - 1) % 65536) (c.core.returnAddress % 256)] := by
  have first : c.core.monitored.interrupts.highest? = some source := calls.first
  rw [accesses_healthy calls.healthy,
    Cpu.Core.run_step_dispatches Memory.bus.monitored calls.enabled first]
  rfl

-----------------------------------------------------------------------------------------
-- What serving an interrupt comes to
-----------------------------------------------------------------------------------------

/-- A step that has led from `c` to `d` has served a source. What it has done up to the timer is in
the core that it has worked on.
-/
structure Serves (c : Console) (source : Source) (d : Console) : Prop where
  first
    : c.interrupts.pending.getLsbD source.priority = true
      ∧ ∀ bit < source.priority, c.interrupts.pending.getLsbD bit = false
  activity : d.cpu.activity = .service source
  pc : d.cpu.registers.pc = 0x40 + 8 * source.priority
  sp : d.cpu.registers.sp = (c.cpu.registers.sp - 2) % 65536
  accesses
    : c.accesses
      = [.write ((c.cpu.registers.sp - 1) % 65536) (c.core.returnAddress / 256),
          .write ((c.cpu.registers.sp - 2) % 65536) (c.core.returnAddress % 256)]
  memory
    : c.worked.memory
      = ((c.memory.write ((c.cpu.registers.sp - 1) % 65536) (c.core.returnAddress / 256)
            (c.interrupts.setMaster false)).2.write
          ((c.cpu.registers.sp - 2) % 65536) (c.core.returnAddress % 256)
            (c.interrupts.setMaster false)).2
  latches
    : d.cpu.halted = false ∧ d.cpu.stopped = false ∧ d.cpu.haltBug = false
      ∧ d.cpu.eiPending = false
  /-- Everything but the two addresses is in the registers as it was. -/
  registers
    : { d.cpu.registers with pc := c.cpu.registers.pc, sp := c.cpu.registers.sp }
      = c.cpu.registers
  requests (bit : Nat)
    : c.worked.interrupts.requests.getLsbD bit
      = (c.interrupts.requests.getLsbD bit && bit != source.priority)
  switches : d.interrupts.master = false ∧ d.interrupts.enable = c.interrupts.enable
  ticked : (d.memory.timer, d.interrupts) = c.worked.memory.timer.tick 20 c.worked.interrupts
  rest : d.memory = { c.worked.memory with timer := d.memory.timer }

/-- An address to return to is one of a byte behind another. -/
theorem returnAddress_isWord (formed : c.WellFormed) : Cpu.IsWord c.core.returnAddress := by
  have range : Cpu.IsWord c.core.cpu.registers.pc := formed.registers.pc
  rw [Cpu.Core.returnAddress]
  split
  · exact ⟨by omega, by omega⟩
  · exact range

/-- With the stack off the devices, the two writes do not reach the interrupt controller. -/
theorem stacked_eq (formed : c.WellFormed)
    (high : OffDevices ((c.cpu.registers.sp - 1) % 65536))
    (low : OffDevices ((c.cpu.registers.sp - 2) % 65536))
    : c.core.stacked Memory.bus
      = (c.interrupts.setMaster false,
          ((c.memory.write ((c.cpu.registers.sp - 1) % 65536) (c.core.returnAddress / 256)
              (c.interrupts.setMaster false)).2.write
            ((c.cpu.registers.sp - 2) % 65536) (c.core.returnAddress % 256)
              (c.interrupts.setMaster false)).2) := by
  obtain ⟨positive, bound⟩ := returnAddress_isWord formed
  have byte : c.core.returnAddress / 256 % 256 = c.core.returnAddress / 256 := by omega
  have twice : ((c.cpu.registers.sp - 1) % 65536 - 1) % 65536
      = (c.cpu.registers.sp - 2) % 65536 := by
    omega
  have whole (number : Int) : number % 65536 % 65536 = number % 65536 := Int.emod_emod _ _
  have first := c.memory.write_offDevices (whole _ ▸ high) (c.core.returnAddress / 256)
    (c.interrupts.setMaster false)
  have second (m : Memory) := m.write_offDevices (whole _ ▸ low) (c.core.returnAddress % 256)
    (c.interrupts.setMaster false)
  have writes : c.core.stacked Memory.bus
      = let written := c.memory.write ((c.cpu.registers.sp - 1) % 65536)
          (c.core.returnAddress / 256 % 256) (c.interrupts.setMaster false)
        written.2.write (((c.cpu.registers.sp - 1) % 65536 - 1) % 65536)
          (c.core.returnAddress % 256) written.1 := rfl
  rw [writes, byte, twice]
  dsimp only
  rw [first]
  exact Prod.ext (second _) rfl

/-- With the master switch on and an enabled request up, the next step serves the source with the
lowest of their bits, and nothing else.
-/
theorem step_serves (formed : c.WellFormed) (healthy : c.fault = none)
    (enabled : c.interrupts.master = true) (up : c.interrupts.pending ≠ 0)
    (high : OffDevices ((c.cpu.registers.sp - 1) % 65536))
    (low : OffDevices ((c.cpu.registers.sp - 2) % 65536))
    : ∃ source d, c.step = (.ok 20, d) ∧ c.Serves source d := by
  obtain ⟨source, calls⟩ := exists_calls healthy enabled up
  have stepped : c.step = (.ok 20, c.step.2) := Prod.ext calls.step_fst rfl
  obtain ⟨positive, bound⟩ := returnAddress_isWord formed
  have twice : ((c.cpu.registers.sp - 1) % 65536 - 1) % 65536
      = (c.cpu.registers.sp - 2) % 65536 := by
    omega
  have worked := calls.worked
  rw [stacked_eq formed high low] at worked
  have served : c.worked.interrupts = (c.interrupts.setMaster false).acknowledge source :=
    congrArg (·.interrupts) worked
  obtain ⟨master, enable⟩ := c.worked.memory.timer.tick_switches 20 c.worked.interrupts
  have active := calls.activity
  obtain ⟨outbox, announcedBanks, concluded⟩ :=
    conclude_eq 20 { c with core := c.worked, clock := c.clock.after 20 }
  refine ⟨source, c.step.2, stepped, ?_⟩
  rw [(step_ok stepped).2, concluded] at active ⊢
  constructor
  case first => exact Interrupts.highest?_lowest calls.first
  case activity => exact active
  case pc => exact congrArg (·.cpu.registers.pc) worked
  case sp => exact (congrArg (·.cpu.registers.sp) worked).trans twice
  case accesses =>
      have byte : c.core.returnAddress / 256 % 256 = c.core.returnAddress / 256 := by omega
      rw [calls.accesses]
      dsimp only
      rw [byte, twice]
  case memory => exact congrArg (·.memory) worked
  case latches =>
      have processor : c.worked.cpu = c.core.forgotten.diverted source := congrArg (·.cpu) worked
      exact ⟨congrArg Cpu.halted processor, congrArg Cpu.stopped processor,
        congrArg Cpu.haltBug processor, congrArg Cpu.eiPending processor⟩
  case registers =>
      have kept := congrArg (fun core => { core.cpu.registers with
        pc := c.cpu.registers.pc, sp := c.cpu.registers.sp }) worked
      exact kept
  case requests =>
      intro bit
      rw [served, Interrupts.requests_acknowledge]
      rfl
  case switches =>
      refine ⟨master.trans ?_, enable.trans ?_⟩
      all_goals
        rw [served]
        rfl
  case ticked => rfl
  case rest => rfl

/-- A blank console that waits for the timer and the joypad, with the return address wrapped around
and the stack in the program area.
-/
def called : Console :=
  { blank with
    core :=
      { blank.core with
        cpu.registers := { pc := 0, sp := 2, flags := {} }
        cpu.halted := true
        cpu.haltBug := true
        cpu.eiPending := true
        interrupts := { enable := 0xF4, requests := 0x1C, master := true } } }

theorem step_serves_called
    : called.WellFormed ∧ called.fault = none ∧ called.interrupts.master = true
        ∧ called.interrupts.pending ≠ 0 ∧ OffDevices ((called.cpu.registers.sp - 1) % 65536)
        ∧ OffDevices ((called.cpu.registers.sp - 2) % 65536)
        ∧ called.core.returnAddress = 0xFFFF
        ∧ ∃ source d, called.step = (.ok 20, d) ∧ called.Serves source d := by
  have formed : called.WellFormed := by
    refine wellFormed_iff.mpr ⟨?_, ⟨by decide, by decide⟩, rfl, rfl, rfl, rfl⟩
    constructor <;> constructor <;> decide
  have up : called.interrupts.pending ≠ 0 := by decide
  have high : OffDevices ((called.cpu.registers.sp - 1) % 65536) := ⟨.inl (by decide), by decide⟩
  have low : OffDevices ((called.cpu.registers.sp - 2) % 65536) := ⟨.inl (by decide), by decide⟩
  exact ⟨formed, rfl, rfl, up, high, low, rfl, step_serves formed rfl rfl up high low⟩

end Handheld.Console
