import Handheld.Proofs.Cpu.Execution

/-! What an instruction leaves alone.
Few instructions touch a latch or the master switch. All others change the processor's registers, and
whatever the accesses change that they make.
-/

namespace Handheld

variable {σ τ α β : Type} {view : σ → τ}

/-- A program changes nothing of what a view shows. -/
def Leaves (view : σ → τ) (p : StateM σ α) : Prop :=
  ∀ s, view (p.run s).2 = view s

namespace Leaves

theorem pure (answer : α) : Leaves view (Pure.pure answer) :=
  fun _ => rfl

theorem bind {p : StateM σ α} {f : α → StateM σ β} (first : Leaves view p)
    (rest : ∀ answer, Leaves view (f answer))
    : Leaves view (p >>= f) :=
  fun s => (rest (p.run s).1 (p.run s).2).trans (first s)

/-- An answer that is fixed changes nothing more. -/
theorem answering {p : StateM σ α} (first : Leaves view p) (answer : β)
    : Leaves view (p >>= fun _ => Pure.pure answer) :=
  first.bind fun _ => .pure answer

end Leaves

namespace Cpu

variable {μ : Type} {bus : Bus μ} {view : Core μ → τ}

/-- What a view shows is neither in the registers nor changed by a read. -/
structure ReadFrame (bus : Bus μ) (view : Core μ → τ) : Prop where
  registers : ∀ change, Leaves view (Core.onRegisters change)
  read : ∀ address, Leaves view (Core.read bus address)

/-- What a view shows is neither in the registers nor changed by an access. -/
structure Frame (bus : Bus μ) (view : Core μ → τ) : Prop extends ReadFrame bus view where
  write : ∀ address value, Leaves view (Core.write bus address value)

/-- The instruction sets or clears a latch or the master switch. -/
def Instruction.switches : Instruction → Bool
  | .stop | .halt | .di | .ei | .reti => true
  | _ => false

namespace ReadFrame

theorem getRegisters : Leaves view (Core.getRegisters (μ := μ)) :=
  fun _ => rfl

theorem isTaken (condition : Option Condition)
    : Leaves view (Core.isTaken (μ := μ) condition) := by
  intro core
  rw [Core.run_isTaken]

variable (frame : ReadFrame bus view)
include frame

theorem readByte (address : Int) : Leaves view (Core.readByte bus address) :=
  (frame.read address).bind fun _ => .pure _

theorem jumpTo (address : Int) : Leaves view (Core.jumpTo (μ := μ) address) :=
  frame.registers _

theorem pop : Leaves view (Core.pop bus) := by
  refine getRegisters.bind fun _ => (frame.readByte _).bind fun _ => ?_
  refine (frame.registers _).bind fun _ => getRegisters.bind fun _ => ?_
  exact (frame.readByte _).bind fun _ => (frame.registers _).bind fun _ => .pure _

theorem addressOf (immediate : Int) (pointer : Pointer)
    : Leaves view (Core.addressOf (μ := μ) immediate pointer) := by
  refine getRegisters.bind fun _ => ?_
  cases pointer with
  | hlUp => exact (frame.registers _).answering _
  | hlDown => exact (frame.registers _).answering _
  | _ => exact .pure _

theorem readOperand (immediate : Int) (operand : Operand)
    : Leaves view (Core.readOperand bus immediate operand) := by
  cases operand with
  | register register => exact getRegisters.bind fun _ => .pure _
  | memory pointer => exact (frame.addressOf immediate pointer).bind fun _ => frame.readByte _
  | immediate => exact .pure _

end ReadFrame

namespace Frame

open ReadFrame (getRegisters isTaken)

/-- What depends on a test leaves alone what its work does. -/
theorem onTest {condition : Option Condition} {work : StateM (Core μ) PUnit}
    (leaves : Leaves view work)
    : Leaves view (Core.isTaken condition >>= fun taken =>
        if taken then work >>= fun _ => Pure.pure taken else Pure.pure taken) := by
  refine (isTaken condition).bind fun taken => ?_
  cases taken with
  | false => exact .pure _
  | true => exact leaves.answering _

variable (frame : Frame bus view)
include frame

theorem push (value : Int) : Leaves view (Core.push bus value) := by
  refine (frame.registers _).bind fun _ => getRegisters.bind fun _ => ?_
  refine (frame.write _ _).bind fun _ => (frame.registers _).bind fun _ => ?_
  exact getRegisters.bind fun _ => frame.write _ _

theorem writeOperand (immediate : Int) (operand : Operand) (value : Int)
    : Leaves view (Core.writeOperand bus immediate operand value) := by
  cases operand with
  | register register => exact frame.registers _
  | memory pointer => exact (frame.addressOf immediate pointer).bind fun _ => frame.write _ _
  | immediate => exact .pure _

/-- An instruction that switches nothing leaves alone what no access changes. -/
theorem execute {instruction : Instruction} (plain : instruction.switches = false)
    (immediate : Int)
    : Leaves view (Core.execute bus instruction immediate) := by
  -- Several instructions share one of two ways to work on an operand in place.
  have change := frame.registers
  have modify (target : Operand) (f : Int → Registers → Registers) (g : Int → Int)
      : Leaves view (Core.readOperand bus immediate target >>= fun value =>
          Core.onRegisters (f value) >>= fun _ =>
            Core.writeOperand bus immediate target (g value) >>= fun _ => Pure.pure false) :=
    (frame.readOperand _ _).bind fun _ => (change _).bind fun _ =>
      (frame.writeOperand _ _ _).answering _
  have replace (target : Operand) (f : Int → Int)
      : Leaves view (Core.readOperand bus immediate target >>= fun value =>
          Core.writeOperand bus immediate target (f value) >>= fun _ => Pure.pure false) :=
    (frame.readOperand _ _).bind fun _ => (frame.writeOperand _ _ _).answering _
  cases instruction with
  | stop | halt | di | ei | reti => cases plain
  | nop | extend => exact .pure _
  | load target source =>
      exact (frame.readOperand _ _).bind fun _ => (frame.writeOperand _ _ _).answering _
  | storeSp =>
      refine getRegisters.bind fun _ => (frame.write _ _).bind fun _ => ?_
      exact (frame.write _ _).answering _
  | push source => exact getRegisters.bind fun _ => (frame.push _).answering _
  | pop target => exact frame.pop.bind fun _ => (change _).answering _
  | inc target => exact modify target _ _
  | dec target => exact modify target _ _
  | arithmetic operation source =>
      exact (frame.readOperand _ _).bind fun _ => (change _).answering _
  | jump condition => exact onTest (frame.jumpTo _)
  | jumpRelative condition => exact onTest (change _)
  | call condition =>
      exact onTest
        (getRegisters.bind fun _ => (frame.push _).bind fun _ => frame.jumpTo immediate)
  | ret condition =>
      have returned : Leaves view (Core.pop bus >>= Core.jumpTo) := frame.pop.bind frame.jumpTo
      exact onTest returned
  | rst vector =>
      refine getRegisters.bind fun _ => (frame.push _).bind fun _ => ?_
      exact (frame.jumpTo _).answering _
  | rotate operation target =>
      refine (frame.readOperand _ _).bind fun _ => getRegisters.bind fun _ => ?_
      exact (change _).bind fun _ => (frame.writeOperand _ _ _).answering _
  | bit index source => exact (frame.readOperand _ _).bind fun _ => (change _).answering _
  | reset index target => exact replace target _
  | set index target => exact replace target _
  | _ => exact (change _).answering _

end Frame

/-- The processor without its registers. -/
def Core.aside (core : Core μ) : Cpu :=
  { core.cpu with registers := .powerOn }

/-- What is not in a register is changed by no access. -/
theorem Frame.aside (bus : Bus μ) : Frame bus Core.aside where
  registers _ _ := rfl
  read _ _ := rfl
  write _ _ _ := rfl

/-- What an instruction does to the latches. `HALT` may fail to wait. -/
def Instruction.latch (fails : Bool) (cpu : Cpu) : Instruction → Cpu
  | .stop => { cpu with stopped := true }
  | .halt => if fails then { cpu with haltBug := true } else { cpu with halted := true }
  | .di => { cpu with eiPending := false }
  | .ei => { cpu with eiPending := true }
  | _ => cpu

/-- Besides the registers, an instruction changes no more of the processor than its latches. -/
theorem Core.run_execute_aside (bus : Bus μ) (instruction : Instruction) (immediate : Int)
    (core : Core μ)
    : ((execute bus instruction immediate).run core).2.aside
      = instruction.latch (!core.interrupts.master && core.interrupts.hasPending) core.aside := by
  cases plain : instruction.switches with
  | false =>
      have kept := (Frame.aside bus).execute plain immediate core
      cases instruction with
      | stop | halt | di | ei | reti => cases plain
      | _ => exact kept
  | true =>
      cases instruction with
      | halt =>
          rw [run_halt, Instruction.latch]
          split <;> rfl
      | stop | di | ei | reti => rfl
      | _ => cases plain

end Cpu

end Handheld
