import Handheld.Cpu.Chart

/-! Operations of a reference processor, found in an opcode by its bit fields alone.
The three fields of an opcode are its bits 7-6, 5-3 and 2-0; no table of opcodes is used.
-/

namespace Handheld.Reference

open Cpu (Register16 Pointer Condition Arithmetic Rotation Operand Instruction Chart.decode?
  Chart.decodeExtended)

-----------------------------------------------------------------------------------------
-- Operations and their operands
-----------------------------------------------------------------------------------------

/-- The eight operands that three bits of an opcode select. -/
inductive Slot
  | b
  | c
  | d
  | e
  | h
  | l
  /-- The cell at `HL`. -/
  | atHl
  | a
  deriving DecidableEq, Repr

/-- What one opcode asks for. Bytes that follow the opcode are no part of it. -/
inductive Operation
  | nop
  | stop
  | halt
  | di
  | ei
  | move (target source : Slot)
  | moveByte (target : Slot)
  | loadA (source : Pointer)
  | storeA (target : Pointer)
  | moveWord (target : Register16)
  | storeSp
  | spFromHl
  | hlFromSp
  | addSp
  | push (source : Register16)
  | pop (target : Register16)
  | inc (target : Slot)
  | dec (target : Slot)
  | incWord (target : Register16)
  | decWord (target : Register16)
  | arithmetic (operation : Arithmetic) (source : Slot)
  | arithmeticByte (operation : Arithmetic)
  | addHl (source : Register16)
  /-- Rotates the accumulator to the left or right, through the carry or not. -/
  | rotateA (right through : Bool)
  | daa
  | cpl
  | scf
  | ccf
  | jump (test : Option Condition)
  | jumpHl
  | jumpRelative (test : Option Condition)
  | call (test : Option Condition)
  | ret (test : Option Condition)
  | reti
  | rst (index : BitVec 3)
  | rotate (rotation : Rotation) (target : Slot)
  | bit (index : BitVec 3) (source : Slot)
  | reset (index : BitVec 3) (target : Slot)
  | set (index : BitVec 3) (target : Slot)
  deriving DecidableEq, Repr

-----------------------------------------------------------------------------------------
-- The orders in which fields count their operands
-----------------------------------------------------------------------------------------

/-- The order `B`, `C`, `D`, `E`, `H`, `L`, `(HL)`, `A`. -/
def Slot.ofBits (bits : BitVec 3) : Slot :=
  match bits.toNat with
  | 0 => .b
  | 1 => .c
  | 2 => .d
  | 3 => .e
  | 4 => .h
  | 5 => .l
  | 6 => .atHl
  | _ => .a

/-- The order `BC`, `DE`, `HL`, with a fourth pair that depends on the operation. -/
def pairOf (fourth : Register16) (bits : BitVec 2) : Register16 :=
  match bits.toNat with
  | 0 => .bc
  | 1 => .de
  | 2 => .hl
  | _ => fourth

/-- The order `(BC)`, `(DE)`, `(HL+)`, `(HL-)`. -/
def pointerOf (bits : BitVec 2) : Pointer :=
  match bits.toNat with
  | 0 => .bc
  | 1 => .de
  | 2 => .hlUp
  | _ => .hlDown

/-- The order `NZ`, `Z`, `NC`, `C`. -/
def conditionOf (bits : BitVec 2) : Condition :=
  match bits.toNat with
  | 0 => .nz
  | 1 => .z
  | 2 => .nc
  | _ => .c

/-- The order of the accumulator operations. -/
def arithmeticOf (bits : BitVec 3) : Arithmetic :=
  match bits.toNat with
  | 0 => .add
  | 1 => .adc
  | 2 => .sub
  | 3 => .sbc
  | 4 => .and
  | 5 => .xor
  | 6 => .or
  | _ => .cp

/-- The order of the rotations and shifts. -/
def rotationOf (bits : BitVec 3) : Rotation :=
  match bits.toNat with
  | 0 => .rlc
  | 1 => .rrc
  | 2 => .rl
  | 3 => .rr
  | 4 => .sla
  | 5 => .sra
  | 6 => .swap
  | _ => .srl

-----------------------------------------------------------------------------------------
-- Decoding by bit fields
-----------------------------------------------------------------------------------------

/-- The column of accumulator and flag operations in the first quarter. -/
def decodeAccumulator (row : BitVec 3) : Operation :=
  match row.toNat with
  | 4 => .daa
  | 5 => .cpl
  | 6 => .scf
  | 7 => .ccf
  | _ => .rotateA (row.getLsbD 0) (row.getLsbD 1)

/-- The first quarter: jumps, 16-bit loads and arithmetic, increments and immediate loads. -/
def decodeFirst (row column : BitVec 3) : Operation :=
  let high := row.extractLsb' 1 2
  let odd := row.getLsbD 0
  match column.toNat with
  | 0 =>
    match row.toNat with
    | 0 => .nop
    | 1 => .storeSp
    | 2 => .stop
    | 3 => .jumpRelative none
    | _ => .jumpRelative (some (conditionOf (row.extractLsb' 0 2)))
  | 1 => if odd then .addHl (pairOf .sp high) else .moveWord (pairOf .sp high)
  | 2 => if odd then .loadA (pointerOf high) else .storeA (pointerOf high)
  | 3 => if odd then .decWord (pairOf .sp high) else .incWord (pairOf .sp high)
  | 4 => .inc (Slot.ofBits row)
  | 5 => .dec (Slot.ofBits row)
  | 6 => .moveByte (Slot.ofBits row)
  | _ => decodeAccumulator row

/-- The last quarter: conditional control flow in its first four rows, and everything that
fits nowhere else.
-/
def decodeLast? (row column : BitVec 3) : Option Operation :=
  let high := row.extractLsb' 1 2
  let test := conditionOf (row.extractLsb' 0 2)
  match column.toNat with
  | 0 =>
    match row.toNat with
    | 4 => some (.storeA .page)
    | 5 => some .addSp
    | 6 => some (.loadA .page)
    | 7 => some .hlFromSp
    | _ => some (.ret (some test))
  | 1 =>
    match row.toNat with
    | 1 => some (.ret none)
    | 3 => some .reti
    | 5 => some .jumpHl
    | 7 => some .spFromHl
    | _ => some (.pop (pairOf .af high))
  | 2 =>
    match row.toNat with
    | 4 => some (.storeA .pageC)
    | 5 => some (.storeA .absolute)
    | 6 => some (.loadA .pageC)
    | 7 => some (.loadA .absolute)
    | _ => some (.jump (some test))
  | 3 =>
    match row.toNat with
    | 0 => some (.jump none)
    | 6 => some .di
    | 7 => some .ei
    | _ => none
  | 4 => if row.toNat < 4 then some (.call (some test)) else none
  | 5 =>
    if !row.getLsbD 0 then some (.push (pairOf .af high))
    else if row.toNat = 1 then some (.call none)
    else none
  | 6 => some (.arithmeticByte (arithmeticOf row))
  | _ => some (.rst row)

/-- The operation of an opcode on the base page. The byte that selects the extended page has
none of its own.
-/
def decode? (opcode : Byte) : Option Operation :=
  let row := opcode.extractLsb' 3 3
  let column := opcode.extractLsb' 0 3
  match (opcode.extractLsb' 6 2).toNat with
  | 0 => some (decodeFirst row column)
  | 1 =>
    if row.toNat = 6 ∧ column.toNat = 6 then some .halt
    else some (.move (Slot.ofBits row) (Slot.ofBits column))
  | 2 => some (.arithmetic (arithmeticOf row) (Slot.ofBits column))
  | _ => decodeLast? row column

/-- The operation of a byte on the extended page. -/
def decodeExtended (opcode : Byte) : Operation :=
  let row := opcode.extractLsb' 3 3
  let slot := Slot.ofBits (opcode.extractLsb' 0 3)
  match (opcode.extractLsb' 6 2).toNat with
  | 0 => .rotate (rotationOf row) slot
  | 1 => .bit row slot
  | 2 => .reset row slot
  | _ => .set row slot

/-- The byte that selects the extended page. -/
abbrev extension : Byte := 0xCB

/-- The number of bytes that follow the opcode of an operation. -/
def Operation.operandBytes : Operation → Nat
  | .stop | .moveByte _ | .arithmeticByte _ | .addSp | .hlFromSp | .jumpRelative _ => 1
  | .loadA .page | .storeA .page => 1
  | .loadA .absolute | .storeA .absolute => 2
  | .moveWord _ | .storeSp | .jump _ | .call _ => 2
  | _ => 0

-----------------------------------------------------------------------------------------
-- The opcode chart lists the same operations
-----------------------------------------------------------------------------------------

/-- A slot as an operand of an instruction. -/
def Slot.operand : Slot → Operand
  | .b => .register .b
  | .c => .register .c
  | .d => .register .d
  | .e => .register .e
  | .h => .register .h
  | .l => .register .l
  | .atHl => .memory .hl
  | .a => .register .a

/-- The instruction that the processor executes for an operation. -/
def Operation.instruction : Operation → Instruction
  | .nop => .nop
  | .stop => .stop
  | .halt => .halt
  | .di => .di
  | .ei => .ei
  | .move target source => .load target.operand source.operand
  | .moveByte target => .load target.operand .immediate
  | .loadA source => .load (.register .a) (.memory source)
  | .storeA target => .load (.memory target) (.register .a)
  | .moveWord target => .loadWord target
  | .storeSp => .storeSp
  | .spFromHl => .spFromHl
  | .hlFromSp => .hlFromSpOffset
  | .addSp => .addSpOffset
  | .push source => .push source
  | .pop target => .pop target
  | .inc target => .inc target.operand
  | .dec target => .dec target.operand
  | .incWord target => .incWord target
  | .decWord target => .decWord target
  | .arithmetic operation source => .arithmetic operation source.operand
  | .arithmeticByte operation => .arithmetic operation .immediate
  | .addHl source => .addHl source
  | .rotateA right through =>
    match right, through with
    | false, false => .rlca
    | true, false => .rrca
    | false, true => .rla
    | true, true => .rra
  | .daa => .daa
  | .cpl => .cpl
  | .scf => .scf
  | .ccf => .ccf
  | .jump test => .jump test
  | .jumpHl => .jumpHl
  | .jumpRelative test => .jumpRelative test
  | .call test => .call test
  | .ret test => .ret test
  | .reti => .reti
  | .rst index => .rst (8 * index.toNat)
  | .rotate rotation target => .rotate rotation target.operand
  | .bit index source => .bit index.toNat source.operand
  | .reset index target => .reset index.toNat target.operand
  | .set index target => .set index.toNat target.operand

/-- The chart and the bit fields agree on every opcode, by running through all bytes. -/
theorem chart_decode? (opcode : Byte)
    : Chart.decode? opcode
      = if opcode = extension then some .extend else (decode? opcode).map Operation.instruction := by
  revert opcode
  decide +kernel

/-- On the extended page the chart and the bit fields agree on every byte. -/
theorem chart_decodeExtended (opcode : Byte)
    : Chart.decodeExtended opcode = (decodeExtended opcode).instruction := by
  revert opcode
  decide +kernel

/-- The bytes of an operation behind its opcode, on the base page. -/
theorem decode?_length {opcode : Byte} {operation : Operation}
    (decoded : decode? opcode = some operation)
    : operation.instruction ≠ .extend ∧ operation.operandBytes ≤ 2
        ∧ operation.instruction.length = 1 + operation.operandBytes := by
  have chart : ∀ opcode : Byte, ∀ operation ∈ decode? opcode,
      operation.instruction ≠ .extend ∧ operation.operandBytes ≤ 2
        ∧ operation.instruction.length = 1 + operation.operandBytes := by
    decide +kernel
  exact chart opcode operation decoded

/-- An operation on the extended page has no operand. -/
theorem decodeExtended_length (opcode : Byte)
    : (decodeExtended opcode).operandBytes = 0
        ∧ (decodeExtended opcode).instruction.length = 2 := by
  rw [decodeExtended]
  split <;> exact ⟨rfl, rfl⟩

/-- The opcodes of the base page for which no operation is defined. -/
def undefinedOpcodes : List Byte :=
  [0xD3, 0xDB, 0xDD, 0xE3, 0xE4, 0xEB, 0xEC, 0xED, 0xF4, 0xFC, 0xFD]

/-- Every other opcode of the base page, the extension byte apart, has an operation. -/
theorem decode?_isSome_iff (opcode : Byte)
    : (opcode = extension ∨ (decode? opcode).isSome) ↔ opcode ∉ undefinedOpcodes := by
  revert opcode
  decide +kernel

end Handheld.Reference
