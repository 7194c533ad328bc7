import Handheld.Cpu.Basic
import Handheld.Cpu.Chart

/-!
One step of the processor: it waits, or serves an interrupt, or executes the instruction at the
program counter. An undefined opcode is noticed before anything but the fetch has happened.
-/

namespace Handheld.Cpu.Core

variable {μ : Type}

/-- The address of a memory operand. The pointers that move `HL` do so here. -/
def addressOf (immediate : Int) (pointer : Pointer) : StateM (Core μ) Int := do
  let registers ← getRegisters
  let hl := registers.get16 .hl
  match pointer with
  | .bc => return registers.get16 .bc
  | .de => return registers.get16 .de
  | .hl => return hl
  | .hlUp =>
    onRegisters (·.set16 .hl ((hl + 1) % 65536))
    return hl
  | .hlDown =>
    onRegisters (·.set16 .hl ((hl - 1) % 65536))
    return hl
  | .pageC => return Bits.lor 0xFF00 registers.c
  | .page => return 0xFF00 + immediate % 256
  | .absolute => return immediate % 65536

/-- The value of an 8-bit operand. -/
def readOperand (bus : Bus μ) (immediate : Int) (operand : Operand) : StateM (Core μ) Int := do
  match operand with
  | .register register => return (← getRegisters).get8 register
  | .immediate => return immediate % 256
  | .memory pointer => readByte bus (← addressOf immediate pointer)

/-- Stores the low byte of a value in an 8-bit operand. An immediate operand holds nothing. -/
def writeOperand (bus : Bus μ) (immediate : Int) (operand : Operand) (value : Int)
    : StateM (Core μ) Unit := do
  match operand with
  | .register register => onRegisters (·.set8 register (value % 256))
  | .immediate => return
  | .memory pointer => write bus (← addressOf immediate pointer) (value % 256)

/-- Whether an instruction with this condition is taken. -/
def isTaken (condition : Option Condition) : StateM (Core μ) Bool := do
  match condition with
  | none => return true
  | some condition => return condition.holds (← getRegisters).flags

/-- Sets the program counter. -/
def jumpTo (address : Int) : StateM (Core μ) Unit :=
  onRegisters fun r => { r with pc := address }

/-- Carries out an instruction whose bytes have been fetched, and says whether it was taken. -/
def execute (bus : Bus μ) (instruction : Instruction) (immediate : Int)
    : StateM (Core μ) Bool := do
  match instruction with
  | .nop | .extend => return false
  | .stop =>
    onCpu fun cpu => { cpu with stopped := true }
    write bus 0xFF04 0
    return false
  | .halt =>
    let interrupts ← getInterrupts
    if !interrupts.master && interrupts.hasPending then
      onCpu fun cpu => { cpu with haltBug := true }
    else
      onCpu fun cpu => { cpu with halted := true }
    return false
  | .di =>
    onInterrupts (·.setMaster false)
    onCpu fun cpu => { cpu with eiPending := false }
    return false
  | .ei =>
    onCpu fun cpu => { cpu with eiPending := true }
    return false
  | .load target source =>
    let value ← readOperand bus immediate source
    writeOperand bus immediate target value
    return false
  | .loadWord target =>
    onRegisters (·.set16 target immediate)
    return false
  | .storeSp =>
    let sp := (← getRegisters).sp
    write bus immediate (sp % 256)
    write bus ((immediate + 1) % 65536) (sp / 256)
    return false
  | .spFromHl =>
    onRegisters fun r => { r with sp := r.get16 .hl }
    return false
  | .hlFromSpOffset =>
    onRegisters fun r =>
      let (result, flagged) := r.spPlus immediate
      flagged.set16 .hl result
    return false
  | .addSpOffset =>
    onRegisters fun r =>
      let (result, flagged) := r.spPlus immediate
      { flagged with sp := result }
    return false
  | .push source =>
    push bus ((← getRegisters).get16 source)
    return false
  | .pop target =>
    let value ← pop bus
    onRegisters (·.set16 target value)
    return false
  | .inc target =>
    let value ← readOperand bus immediate target
    let result := (value + 1) % 256
    onRegisters (·.flagIncrement value result)
    writeOperand bus immediate target result
    return false
  | .dec target =>
    let value ← readOperand bus immediate target
    let result := (value - 1) % 256
    onRegisters (·.flagDecrement value result)
    writeOperand bus immediate target result
    return false
  | .incWord target =>
    onRegisters fun r => r.set16 target ((r.get16 target + 1) % 65536)
    return false
  | .decWord target =>
    onRegisters fun r => r.set16 target ((r.get16 target - 1) % 65536)
    return false
  | .arithmetic operation source =>
    let value ← readOperand bus immediate source
    onRegisters (operation.apply value)
    return false
  | .addHl source =>
    onRegisters (·.addHl source)
    return false
  | .rlca =>
    onRegisters (·.rotateA .rlc)
    return false
  | .rrca =>
    onRegisters (·.rotateA .rrc)
    return false
  | .rla =>
    onRegisters (·.rotateA .rl)
    return false
  | .rra =>
    onRegisters (·.rotateA .rr)
    return false
  | .daa =>
    onRegisters Registers.decimalAdjust
    return false
  | .cpl =>
    onRegisters Registers.complement
    return false
  | .scf =>
    onRegisters (Registers.setCarry true)
    return false
  | .ccf =>
    onRegisters fun r => r.setCarry (!r.flags.c)
    return false
  | .jump condition =>
    let taken ← isTaken condition
    if taken then
      jumpTo immediate
    return taken
  | .jumpHl =>
    onRegisters fun r => { r with pc := r.get16 .hl }
    return false
  | .jumpRelative condition =>
    let taken ← isTaken condition
    if taken then
      onRegisters fun r => { r with pc := (r.pc + Bits.signed immediate) % 65536 }
    return taken
  | .call condition =>
    let taken ← isTaken condition
    if taken then
      push bus (← getRegisters).pc
      jumpTo immediate
    return taken
  | .ret condition =>
    let taken ← isTaken condition
    if taken then
      jumpTo (← pop bus)
    return taken
  | .reti =>
    jumpTo (← pop bus)
    onInterrupts (·.setMaster true)
    return false
  | .rst vector =>
    push bus (← getRegisters).pc
    jumpTo vector
    return false
  | .rotate operation target =>
    let value ← readOperand bus immediate target
    let (result, flagged) := operation.apply value (← getRegisters)
    onRegisters fun _ => flagged
    writeOperand bus immediate target result
    return false
  | .bit index source =>
    let value ← readOperand bus immediate source
    onRegisters fun r =>
      r.setFlags { r.flags with z := !Bits.bit index value, n := false, h := true }
    return false
  | .reset index target =>
    let value ← readOperand bus immediate target
    let bit := Bits.single index
    writeOperand bus immediate target (if Bits.bit index value then value - bit else value)
    return false
  | .set index target =>
    let value ← readOperand bus immediate target
    let bit := Bits.single index
    writeOperand bus immediate target (if Bits.bit index value then value else value + bit)
    return false

/-- Fetches what follows an opcode: the second opcode byte of an extended instruction, or the
immediate byte or word. -/
def fetchRest (bus : Bus μ) (first : Instruction) (address : Int)
    : StateM (Core μ) (Instruction × Int) := do
  if first = .extend then
    let second ← readByte bus address
    return (Chart.decodeExtended (Byte.ofInt second), 0)
  else if first.length = 2 then
    return (first, ← readByte bus address)
  else if first.length = 3 then
    let low ← readByte bus address
    let high ← readByte bus ((address + 1) % 65536)
    return (first, high * 256 + low)
  else
    return (first, 0)

/-- Fetches the instruction at the program counter, which moves behind it, and ends all waiting.
After a `HALT` that failed to wait, the opcode byte is read a second time in place of the byte that
follows it. -/
def fetch (bus : Bus μ) : StateM (Core μ) (Except Fault (Instruction × Int)) := do
  let pc := (← getRegisters).pc
  let opcode := Byte.ofInt (← read bus pc)
  match Chart.decode? opcode with
  | none => return .error { opcode, pc }
  | some first =>
    let skew : Int := if (← getCpu).haltBug then 1 else 0
    onCpu fun cpu => { cpu with halted := false, stopped := false, haltBug := false }
    let (instruction, immediate) ← fetchRest bus first ((pc + 1 - skew) % 65536)
    jumpTo ((pc + instruction.length - skew) % 65536)
    onCpu fun cpu => { cpu with lastInstruction := some instruction }
    return .ok (instruction, immediate)

/-- Executes the instruction at the program counter and answers its cost. -/
def executeNext (bus : Bus μ) : StateM (Core μ) (Except Fault Nat) := do
  let wasPending := (← getCpu).eiPending
  match ← fetch bus with
  | .error fault => return .error fault
  | .ok (instruction, immediate) =>
    let taken ← execute bus instruction immediate
    if wasPending && (← getCpu).eiPending then
      onCpu fun cpu => { cpu with eiPending := false }
      onInterrupts (·.setMaster true)
    onCpu fun cpu => { cpu with instructionCount := cpu.instructionCount + 1 }
    return .ok (instruction.cost taken)

/-- Prepares for an interrupt: all latches and the master switch go off. The answer is the address
to return to, which after a `HALT` that failed to wait is that of the `HALT` itself. -/
def wake : StateM (Core μ) Int := do
  let cpu ← getCpu
  let pc := cpu.registers.pc
  onCpu fun cpu =>
    { cpu with halted := false, stopped := false, eiPending := false, haltBug := false }
  onInterrupts (·.setMaster false)
  return if cpu.haltBug then (pc - 1) % 65536 else pc

/-- Serves an interrupt: the return address goes on the stack, the request is cleared and the
program continues at the source's routine. -/
def dispatch (bus : Bus μ) (source : Source) : StateM (Core μ) Nat := do
  let returnAddress ← wake
  push bus returnAddress
  onInterrupts (·.acknowledge source)
  jumpTo source.vector
  onCpu fun cpu => { cpu with lastInterrupt := some source }
  return 20

/-- Forgets what the last step did. -/
def forget : StateM (Core μ) Unit :=
  onCpu fun cpu => { cpu with lastInstruction := none, lastInterrupt := none }

/-- One step, with the clock cycles it takes. A waiting processor idles for four cycles until an
enabled request arrives, even while the master switch is off. -/
def step (bus : Bus μ) : StateM (Core μ) (Except Fault Nat) := do
  forget
  let cpu ← getCpu
  let interrupts ← getInterrupts
  if (cpu.halted || cpu.stopped) && !interrupts.hasPending then
    return .ok 4
  else if interrupts.master then
    match interrupts.highest? with
    | some source => return .ok (← dispatch bus source)
    | none => executeNext bus
  else
    executeNext bus

end Handheld.Cpu.Core
