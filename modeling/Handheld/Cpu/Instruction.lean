import Handheld.Cpu.Registers

/-!
Instructions as the processor understands them, with the bytes they occupy and the clock cycles
they cost.
-/

namespace Handheld.Cpu

/-- The memory cells that an 8-bit operand can name. -/
inductive Pointer
  /-- The cell at `BC`. -/
  | bc
  /-- The cell at `DE`. -/
  | de
  /-- The cell at `HL`. -/
  | hl
  /-- The cell at `HL`, which then grows by one. -/
  | hlUp
  /-- The cell at `HL`, which then shrinks by one. -/
  | hlDown
  /-- The cell in the top page at the offset held in `C`. -/
  | pageC
  /-- The cell in the top page at the immediate offset. -/
  | page
  /-- The cell at the immediate address. -/
  | absolute
  deriving DecidableEq, Repr

/-- Where an 8-bit value comes from or goes to. -/
inductive Operand
  | register (register : Register8)
  | memory (pointer : Pointer)
  | immediate
  deriving DecidableEq, Repr

/-- When a conditional jump, call or return is taken. -/
inductive Condition
  | nz
  | z
  | nc
  | c
  deriving DecidableEq, Repr

/-- Whether the flags satisfy a condition. -/
def Condition.holds (flags : Flags) : Condition → Bool
  | .nz => !flags.z
  | .z => flags.z
  | .nc => !flags.c
  | .c => flags.c

/-- The two-operand operations on the accumulator. -/
inductive Arithmetic
  | add
  | adc
  | sub
  | sbc
  | and
  | xor
  | or
  | cp
  deriving DecidableEq, Repr

/-- The rotations and shifts of one byte. -/
inductive Rotation
  | rlc
  | rrc
  | rl
  | rr
  | sla
  | sra
  | swap
  | srl
  deriving DecidableEq, Repr

/-- What one instruction does. A jump, call or return without a condition is always taken. -/
inductive Instruction
  | nop
  | stop
  | halt
  | di
  | ei
  | load (target source : Operand)
  | loadWord (target : Register16)
  | storeSp
  | spFromHl
  | hlFromSpOffset
  | addSpOffset
  | push (source : Register16)
  | pop (target : Register16)
  | inc (target : Operand)
  | dec (target : Operand)
  | incWord (target : Register16)
  | decWord (target : Register16)
  | arithmetic (operation : Arithmetic) (source : Operand)
  | addHl (source : Register16)
  | rlca
  | rrca
  | rla
  | rra
  | daa
  | cpl
  | scf
  | ccf
  | jump (condition : Option Condition)
  | jumpHl
  | jumpRelative (condition : Option Condition)
  | call (condition : Option Condition)
  | ret (condition : Option Condition)
  | reti
  | rst (vector : Nat)
  /-- The byte that selects the extended page. -/
  | extend
  | rotate (operation : Rotation) (target : Operand)
  | bit (index : Nat) (source : Operand)
  | reset (index : Nat) (target : Operand)
  | set (index : Nat) (target : Operand)
  deriving DecidableEq, Repr

namespace Operand

/-- The bytes of an operand that follow the opcode. -/
def immediateBytes : Operand → Nat
  | .memory .page => 1
  | .memory .absolute => 2
  | .immediate => 1
  | _ => 0

/-- One if the operand lies in memory. -/
def accesses : Operand → Nat
  | .memory _ => 1
  | _ => 0

end Operand

namespace Instruction

/-- The number of bytes of an instruction, its opcode included. -/
def length : Instruction → Nat
  | .stop | .hlFromSpOffset | .addSpOffset | .jumpRelative _ => 2
  | .loadWord _ | .storeSp | .jump _ | .call _ => 3
  | .load target source => 1 + target.immediateBytes + source.immediateBytes
  | .arithmetic _ source => 1 + source.immediateBytes
  | .rotate .. | .bit .. | .reset .. | .set .. => 2
  | _ => 1

/-- The cost of an instruction; for a conditional one, the cost when it is not taken. Loads and
8-bit operations cost four cycles for every byte they fetch and every memory access. -/
def cycles (instruction : Instruction) : Nat :=
  match instruction with
  | .load target source => 4 * (instruction.length + target.accesses + source.accesses)
  | .arithmetic _ source => 4 * (instruction.length + source.accesses)
  | .inc target | .dec target => 4 * (1 + 2 * target.accesses)
  | .rotate _ target | .reset _ target | .set _ target => 4 * (2 + 2 * target.accesses)
  | .bit _ source => 4 * (2 + source.accesses)
  | .loadWord _ | .hlFromSpOffset | .pop _ => 12
  | .storeSp => 20
  | .addSpOffset | .push _ | .reti | .rst _ => 16
  | .spFromHl | .incWord _ | .decWord _ | .addHl _ => 8
  | .jump none | .ret none => 16
  | .call none => 24
  | .jump (some _) | .jumpRelative none | .call (some _) => 12
  | .jumpRelative (some _) | .ret (some _) => 8
  | _ => 4

/-- The condition under which an instruction is taken. -/
def condition? : Instruction → Option Condition
  | .jump condition | .jumpRelative condition | .call condition | .ret condition => condition
  | _ => none

/-- The cost of a conditional instruction that is taken. -/
def takenCycles? : Instruction → Option Nat
  | .jump (some _) => some 16
  | .jumpRelative (some _) => some 12
  | .call (some _) => some 24
  | .ret (some _) => some 20
  | _ => none

/-- The cost of an instruction whose condition held or did not hold. -/
def cost (instruction : Instruction) (taken : Bool) : Nat :=
  if taken then instruction.takenCycles?.getD instruction.cycles else instruction.cycles

/-- Whether an instruction stands on the extended page. -/
def isExtended : Instruction → Bool
  | .rotate .. | .bit .. | .reset .. | .set .. => true
  | _ => false

end Instruction

end Handheld.Cpu
