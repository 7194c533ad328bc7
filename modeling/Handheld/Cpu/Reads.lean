import Handheld.Cpu.Execution

/-!
The registers that a step looks at and those that it replaces. A step goes the same way whatever the
other registers hold, and leaves them as they are.
-/

namespace Handheld.Cpu

/-- The registers that the address of a cell is taken from. -/
def Pointer.reads : Pointer → List RegisterName
  | .bc => Register16.holders .bc
  | .de => Register16.holders .de
  | .hl | .hlUp | .hlDown => Register16.holders .hl
  | .pageC => [.byte .c]
  | .page | .absolute => []

/-- The registers that are looked at to store a value in an operand. -/
def Operand.readsToStore : Operand → List RegisterName
  | .memory pointer => pointer.reads
  | _ => []

/-- The registers that are looked at to take the value of an operand. -/
def Operand.reads : Operand → List RegisterName
  | .register name => [.byte name]
  | operand => operand.readsToStore

/-- The registers that an instruction looks at besides the flags and the program counter. A call
or return that is not taken looks at none. -/
def Instruction.reads (flags : Flags) (instruction : Instruction) : List RegisterName :=
  match instruction with
  | .load target source => target.readsToStore ++ source.reads
  | .storeSp | .hlFromSpOffset | .addSpOffset | .pop _ | .reti | .rst _ => Register16.holders .sp
  | .spFromHl | .jumpHl => Register16.holders .hl
  | .push source => Register16.holders .sp ++ source.holders
  | .inc target | .dec target => target.reads
  | .incWord target | .decWord target => target.holders
  | .arithmetic _ source => .byte .a :: source.reads
  | .addHl source => Register16.holders .hl ++ source.holders
  | .rlca | .rrca | .rla | .rra | .daa | .cpl => [.byte .a]
  | .call condition | .ret condition =>
    if condition.all (·.holds flags) then Register16.holders .sp else []
  | .rotate _ target | .bit _ target | .reset _ target | .set _ target => target.reads
  | _ => []

/-- The registers that are replaced by finding the address of a cell. -/
def Pointer.replaces : Pointer → List RegisterName
  | .hlUp | .hlDown => Register16.holders .hl
  | _ => []

/-- The registers that are replaced by taking the value of an operand. -/
def Operand.replacesOnRead : Operand → List RegisterName
  | .memory pointer => pointer.replaces
  | _ => []

/-- The registers that are replaced by storing a value in an operand. -/
def Operand.replaces : Operand → List RegisterName
  | .register name => [.byte name]
  | operand => operand.replacesOnRead

/-- The registers that an instruction replaces besides the program counter. A comparison only sets
flags, and a call or return that is not taken replaces none. -/
def Instruction.replaces (flags : Flags) (instruction : Instruction) : List RegisterName :=
  match instruction with
  | .load target source => source.replacesOnRead ++ target.replaces
  | .loadWord target | .incWord target | .decWord target => target.holders
  | .spFromHl | .push _ | .reti | .rst _ => Register16.holders .sp
  | .addSpOffset => .flags :: Register16.holders .sp
  | .hlFromSpOffset | .addHl _ => .flags :: Register16.holders .hl
  | .pop target => Register16.holders .sp ++ target.holders
  | .inc target | .dec target | .rotate _ target => .flags :: target.replaces
  | .reset _ target | .set _ target => target.replaces
  | .arithmetic .cp _ | .scf | .ccf | .bit _ _ => [.flags]
  | .arithmetic _ _ | .rlca | .rrca | .rla | .rra | .daa | .cpl => [.byte .a, .flags]
  | .call condition | .ret condition =>
    if condition.all (·.holds flags) then Register16.holders .sp else []
  | _ => []

namespace Core

variable {μ : Type}

/-- The instruction at the program counter, if there is one. -/
def next? (bus : Bus μ) : StateM (Core μ) (Option Instruction) := do
  let cpu ← getCpu
  let pc := cpu.registers.pc
  match Chart.decode? (Byte.ofInt (← read bus pc)) with
  | none => return none
  | some first =>
    let skew : Int := if cpu.haltBug then 1 else 0
    return some (← fetchRest bus first ((pc + 1 - skew) % 65536)).1

/-- Whether the next step serves an interrupt. -/
def servesNext (core : Core μ) : Bool :=
  core.interrupts.master && core.interrupts.hasPending

/-- The registers that the next step looks at besides the flags. A waiting processor looks at
none, and serving an interrupt puts the program counter on the stack. -/
def reads (bus : Bus μ) (core : Core μ) : List RegisterName :=
  let cpu := core.cpu
  if (cpu.halted || cpu.stopped) && !core.interrupts.hasPending then []
  else if core.servesNext then
    .pc :: Register16.holders .sp
  else
    let instruction := ((next? bus).run core).1
    .pc :: (instruction.map fun found => found.reads cpu.registers.flags).getD []

/-- The registers that a step has replaced, as the core afterwards tells. -/
def replaced (flags : Flags) (later : Core μ) : List RegisterName :=
  match later.cpu.lastInstruction with
  | some instruction => .pc :: instruction.replaces flags
  | none => if later.cpu.lastInterrupt.isSome then .pc :: Register16.holders .sp else []

end Core

end Handheld.Cpu
