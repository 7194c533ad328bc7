import Handheld.Cpu.Arithmetic
import Handheld.Interrupt

/-!
The processor's state and its surroundings: a bus that may be any memory at all, and the interrupt
controller that the processor shares with it.
-/

namespace Handheld

namespace Cpu

/-- An opcode for which no instruction is defined, with the address it was fetched from. -/
structure Fault where
  opcode : Byte
  pc : Int
  deriving DecidableEq, Repr

/-- The report of a fault. -/
def Fault.message (fault : Fault) : String :=
  "Unimplemented opcode 0x" ++ Text.hex 2 fault.opcode.value
    ++ " at PC=0x" ++ Text.hex 4 fault.pc

/-- A memory of type `μ` as the processor sees it. An access may change the memory and the
interrupt controller, and a read may answer any number. -/
structure Bus (μ : Type) where
  read : Int → Interrupts → μ → Int × Interrupts × μ
  write : Int → Int → Interrupts → μ → Interrupts × μ

end Cpu

/-- The processor: its registers, the latches between instructions, and what it did last. -/
structure Cpu where
  registers : Cpu.Registers := {}
  /-- Waiting for an interrupt after `HALT`. -/
  halted : Bool := false
  /-- Waiting for an interrupt after `STOP`. -/
  stopped : Bool := false
  /-- The next fetch does not advance the program counter. -/
  haltBug : Bool := false
  /-- The master switch goes on after the next instruction. -/
  eiPending : Bool := false
  instructionCount : Int := 0
  lastInstruction : Option Cpu.Instruction := none
  lastInterrupt : Option Source := none
  deriving DecidableEq, Repr

namespace Cpu

/-- The processor after a reset. -/
def powerOn : Cpu := {}

/-- A processor with the interrupt controller and the memory it works on. -/
structure Core (μ : Type) where
  cpu : Cpu
  interrupts : Interrupts
  memory : μ

namespace Core

variable {μ : Type}

/-- Reads a cell through the bus. -/
def read (bus : Bus μ) (address : Int) : StateM (Core μ) Int
  | ⟨cpu, interrupts, memory⟩ =>
    let (value, interrupts, memory) := bus.read address interrupts memory
    (value, ⟨cpu, interrupts, memory⟩)

/-- Reads the byte that a cell holds, whatever more the bus answers. -/
def readByte (bus : Bus μ) (address : Int) : StateM (Core μ) Int := do
  return (← read bus address) % 256

/-- Writes a cell through the bus. -/
def write (bus : Bus μ) (address value : Int) : StateM (Core μ) Unit
  | ⟨cpu, interrupts, memory⟩ =>
    let (interrupts, memory) := bus.write address value interrupts memory
    ((), ⟨cpu, interrupts, memory⟩)

/-- The processor's own state. -/
def getCpu : StateM (Core μ) Cpu
  | ⟨cpu, interrupts, memory⟩ => (cpu, ⟨cpu, interrupts, memory⟩)

/-- Changes the processor's own state. -/
def onCpu (change : Cpu → Cpu) : StateM (Core μ) Unit
  | ⟨cpu, interrupts, memory⟩ => ((), ⟨change cpu, interrupts, memory⟩)

/-- The register file. -/
def getRegisters : StateM (Core μ) Registers := do
  return (← getCpu).registers

/-- Changes the register file. -/
def onRegisters (change : Registers → Registers) : StateM (Core μ) Unit :=
  onCpu fun cpu => { cpu with registers := change cpu.registers }

/-- The interrupt controller. -/
def getInterrupts : StateM (Core μ) Interrupts
  | ⟨cpu, interrupts, memory⟩ => (interrupts, ⟨cpu, interrupts, memory⟩)

/-- Changes the interrupt controller. -/
def onInterrupts (change : Interrupts → Interrupts) : StateM (Core μ) Unit
  | ⟨cpu, interrupts, memory⟩ => ((), ⟨cpu, change interrupts, memory⟩)

/-- Puts a number on the stack, high byte first, below the stack pointer. -/
def push (bus : Bus μ) (value : Int) : StateM (Core μ) Unit := do
  onRegisters fun r => { r with sp := (r.sp - 1) % 65536 }
  write bus (← getRegisters).sp (value / 256 % 256)
  onRegisters fun r => { r with sp := (r.sp - 1) % 65536 }
  write bus (← getRegisters).sp (value % 256)

/-- Takes a 16-bit number from the stack. -/
def pop (bus : Bus μ) : StateM (Core μ) Int := do
  let low ← readByte bus (← getRegisters).sp
  onRegisters fun r => { r with sp := (r.sp + 1) % 65536 }
  let high ← readByte bus (← getRegisters).sp
  onRegisters fun r => { r with sp := (r.sp + 1) % 65536 }
  return high * 256 + low

end Core

end Cpu

end Handheld
