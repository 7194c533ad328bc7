import Handheld.Cpu.FlatRam
import Handheld.Proofs.Reference.Operation

/-! A reference processor on 8-bit and 16-bit words over flat memory.
It fetches byte by byte, lets every access to memory take one machine cycle, and adds the
cycles in which it works without an access.
-/

namespace Handheld.Reference

open Cpu (Register16 Pointer Condition Arithmetic Rotation FlatRam)

/-- The register file of the reference processor. -/
structure Words where
  a : Byte
  f : Byte
  b : Byte
  c : Byte
  d : Byte
  e : Byte
  h : Byte
  l : Byte
  sp : Word
  pc : Word

/-- The flag byte of four flags; its low nibble is zero. -/
def flagByte (z n h c : Bool) : Byte :=
  BitVec.ofBool z ++ BitVec.ofBool n ++ BitVec.ofBool h ++ BitVec.ofBool c ++ 0#4

namespace Words

/-- The zero flag. -/
def zero (w : Words) : Bool := w.f.getLsbD 7

/-- The subtraction flag. -/
def subtract (w : Words) : Bool := w.f.getLsbD 6

/-- The half-carry flag. -/
def halfCarry (w : Words) : Bool := w.f.getLsbD 5

/-- The carry flag. -/
def carry (w : Words) : Bool := w.f.getLsbD 4

/-- Sets all four flags. -/
def setFlags (z n h c : Bool) (w : Words) : Words :=
  { w with f := flagByte z n h c }

/-- A register pair, its first register in the high byte. -/
def pair (w : Words) : Register16 → Word
  | .af => w.a ++ w.f
  | .bc => w.b ++ w.c
  | .de => w.d ++ w.e
  | .hl => w.h ++ w.l
  | .sp => w.sp

/-- Stores a word in a register pair. The low nibble of the flag byte stays zero. -/
def setPair (pair : Register16) (word : Word) (w : Words) : Words :=
  let high := word.extractLsb' 8 8
  let low := word.extractLsb' 0 8
  match pair with
  | .af => { w with a := high, f := low &&& 0xF0 }
  | .bc => { w with b := high, c := low }
  | .de => { w with d := high, e := low }
  | .hl => { w with h := high, l := low }
  | .sp => { w with sp := word }

/-- A sum on the accumulator with the carries out of bits 3 and 7. -/
def addA (value : Byte) (carryIn : Bool) (w : Words) : Words :=
  let sum := w.a + value + (BitVec.ofBool carryIn).setWidth 8
  let flagged := w.setFlags (sum = 0) false
    (BitVec.carry 4 w.a value carryIn) (BitVec.carry 8 w.a value carryIn)
  { flagged with a := sum }

/-- A difference from the accumulator as the sum with the complement. A borrow is a carry that
fails to appear.
-/
def subtractA (value : Byte) (borrowIn : Bool) (w : Words) : Words :=
  let difference := w.a + ~~~value + (BitVec.ofBool (!borrowIn)).setWidth 8
  let flagged := w.setFlags (difference = 0) true
    (!BitVec.carry 4 w.a (~~~value) (!borrowIn)) (!BitVec.carry 8 w.a (~~~value) (!borrowIn))
  { flagged with a := difference }

/-- Takes a result of bitwise logic into the accumulator. -/
def logicA (result : Byte) (halfCarry : Bool) (w : Words) : Words :=
  { w.setFlags (result = 0) false halfCarry false with a := result }

/-- An operation of a byte on the accumulator. A comparison keeps only the flags. -/
def accumulate (operation : Arithmetic) (value : Byte) (w : Words) : Words :=
  match operation with
  | .add => addA value false w
  | .adc => addA value w.carry w
  | .sub => subtractA value false w
  | .sbc => subtractA value w.carry w
  | .and => logicA (w.a &&& value) true w
  | .xor => logicA (w.a ^^^ value) false w
  | .or => logicA (w.a ||| value) false w
  | .cp => { subtractA value false w with a := w.a }

/-- A rotation or shift of a byte, and the bit that falls out. A rotation through the carry is
one of nine bits.
-/
def rotated (rotation : Rotation) (value : Byte) (carry : Bool) : Byte × Bool :=
  match rotation with
  | .rlc => (value.rotateLeft 1, value.getLsbD 7)
  | .rrc => (value.rotateRight 1, value.getLsbD 0)
  | .rl => (((BitVec.ofBool carry ++ value).rotateLeft 1).setWidth 8, value.getLsbD 7)
  | .rr => (((BitVec.ofBool carry ++ value).rotateRight 1).setWidth 8, value.getLsbD 0)
  | .sla => (value <<< 1, value.getLsbD 7)
  | .sra => (value.sshiftRight 1, value.getLsbD 0)
  | .swap => (value.rotateLeft 4, false)
  | .srl => (value >>> 1, value.getLsbD 0)

/-- A rotation of the accumulator, which clears the zero flag whatever comes out. -/
def rotateA (rotation : Rotation) (w : Words) : Words :=
  let (result, out) := rotated rotation w.a w.carry
  { w.setFlags false false false out with a := result }

/-- The decimal correction of the accumulator: six for each digit that has left its range, taken
off again after a subtraction.
-/
def adjustDecimal (w : Words) : Words :=
  let low : Bool := w.halfCarry || (!w.subtract && 9 < (w.a &&& 0x0F#8).toNat)
  let high : Bool := w.carry || (!w.subtract && 0x99 < w.a.toNat)
  let correction : Byte := (if low then 0x06 else 0) ||| (if high then 0x60 else 0)
  let result := if w.subtract then w.a - correction else w.a + correction
  { w.setFlags (result = 0) w.subtract false high with a := result }

/-- A sum on `HL` with the carries out of bits 11 and 15. The zero flag stays. -/
def addToHl (word : Word) (w : Words) : Words :=
  let hl := w.pair .hl
  (w.setFlags w.zero false (BitVec.carry 12 hl word false) (BitVec.carry 16 hl word false)).setPair
    .hl (hl + word)

/-- The stack pointer plus a signed byte. The carries are those of the two low bytes. -/
def offsetSp (offset : Byte) (w : Words) : Word × Words :=
  let low := w.sp.extractLsb' 0 8
  (w.sp + offset.signExtend 16,
    w.setFlags false false (BitVec.carry 4 low offset false) (BitVec.carry 8 low offset false))

/-- Whether a test succeeds on the flags. No test always succeeds. -/
def holds (test : Option Condition) (w : Words) : Bool :=
  match test with
  | none => true
  | some .nz => !w.zero
  | some .z => w.zero
  | some .nc => !w.carry
  | some .c => w.carry

end Words

/-- The state of the reference processor and its memory. -/
structure Machine where
  words : Words
  halted : Bool
  stopped : Bool
  haltBug : Bool
  eiPending : Bool
  ime : Bool
  enable : Byte
  requests : BitVec 5
  ram : FlatRam
  /-- The writes made to memory, the latest first. -/
  writes : List (Word × Byte)
  /-- Machine cycles that the current step has taken. -/
  ticks : Nat

/-- The requests that are enabled. -/
def Machine.pending (m : Machine) : BitVec 5 :=
  m.enable.setWidth 5 &&& m.requests

-----------------------------------------------------------------------------------------
-- Accesses to memory, each of which takes a machine cycle
-----------------------------------------------------------------------------------------

/-- Works without an access for some machine cycles. -/
def idle (cycles : Nat) : StateM Machine Unit :=
  modify fun m => { m with ticks := m.ticks + cycles }

/-- The register file. -/
def getWords : StateM Machine Words := do
  return (← get).words

/-- Changes the register file. -/
def onWords (change : Words → Words) : StateM Machine Unit :=
  modify fun m => { m with words := change m.words }

/-- Reads a cell. -/
def read (address : Word) : StateM Machine Byte := do
  idle 1
  return (← get).ram.get address.toNat

/-- Writes a cell. -/
def write (address : Word) (value : Byte) : StateM Machine Unit := do
  idle 1
  modify fun m =>
    { m with ram := m.ram.set address.toNat value, writes := (address, value) :: m.writes }

/-- Reads the byte at the program counter, which moves on. -/
def fetch : StateM Machine Byte := do
  let address := (← getWords).pc
  onWords fun w => { w with pc := address + 1 }
  read address

/-- Reads the bytes that follow an opcode, low byte first. -/
def fetchOperand (bytes : Nat) : StateM Machine Word := do
  match bytes with
  | 0 => return 0
  | 1 => return (← fetch).setWidth 16
  | _ =>
    let low ← fetch
    let high ← fetch
    return high ++ low

/-- Puts a word on the stack, high byte first. -/
def push (word : Word) : StateM Machine Unit := do
  let sp := (← getWords).sp
  onWords fun w => { w with sp := sp - 2 }
  write (sp - 1) (word.extractLsb' 8 8)
  write (sp - 2) (word.extractLsb' 0 8)

/-- Takes a word from the stack. -/
def pop : StateM Machine Word := do
  let sp := (← getWords).sp
  onWords fun w => { w with sp := sp + 2 }
  let low ← read sp
  let high ← read (sp + 1)
  return high ++ low

/-- The operand in a slot. -/
def load (slot : Slot) : StateM Machine Byte := do
  let w ← getWords
  match slot with
  | .b => return w.b
  | .c => return w.c
  | .d => return w.d
  | .e => return w.e
  | .h => return w.h
  | .l => return w.l
  | .atHl => read (w.pair .hl)
  | .a => return w.a

/-- Stores a byte in a slot. -/
def store (slot : Slot) (value : Byte) : StateM Machine Unit := do
  match slot with
  | .b => onWords fun w => { w with b := value }
  | .c => onWords fun w => { w with c := value }
  | .d => onWords fun w => { w with d := value }
  | .e => onWords fun w => { w with e := value }
  | .h => onWords fun w => { w with h := value }
  | .l => onWords fun w => { w with l := value }
  | .atHl => write ((← getWords).pair .hl) value
  | .a => onWords fun w => { w with a := value }

/-- The address that a pointer denotes behind an opcode with an operand. -/
def locate (operand : Word) (pointer : Pointer) : StateM Machine Word := do
  let w ← getWords
  match pointer with
  | .bc => return w.pair .bc
  | .de => return w.pair .de
  | .hl => return w.pair .hl
  | .hlUp =>
    onWords (·.setPair .hl (w.pair .hl + 1))
    return w.pair .hl
  | .hlDown =>
    onWords (·.setPair .hl (w.pair .hl - 1))
    return w.pair .hl
  | .pageC => return 0xFF#8 ++ w.c
  | .page => return 0xFF#8 ++ operand.setWidth 8
  | .absolute => return operand

-----------------------------------------------------------------------------------------
-- One operation, and one step
-----------------------------------------------------------------------------------------

/-- Sets the program counter, which takes a machine cycle. -/
def jump (address : Word) : StateM Machine Unit := do
  idle 1
  onWords fun w => { w with pc := address }

/-- Carries out an operation whose opcode and operand have been fetched. -/
def execute (operation : Operation) (operand : Word) : StateM Machine Unit := do
  match operation with
  | .nop => return
  | .stop =>
    write 0xFF04 0
    -- The clock has stopped behind the first byte.
    modify fun m => { m with stopped := true, ticks := 1 }
  | .halt =>
    modify fun m =>
      if !m.ime && m.pending ≠ 0 then { m with haltBug := true } else { m with halted := true }
  | .di => modify fun m => { m with ime := false, eiPending := false }
  | .ei => modify fun m => { m with eiPending := true }
  | .move target source => store target (← load source)
  | .moveByte target => store target (operand.setWidth 8)
  | .loadA source =>
    let value ← read (← locate operand source)
    onWords fun w => { w with a := value }
  | .storeA target =>
    let value := (← getWords).a
    write (← locate operand target) value
  | .moveWord target => onWords (·.setPair target operand)
  | .storeSp =>
    let sp := (← getWords).sp
    write operand (sp.extractLsb' 0 8)
    write (operand + 1) (sp.extractLsb' 8 8)
  | .spFromHl =>
    idle 1
    onWords fun w => { w with sp := w.pair .hl }
  | .hlFromSp =>
    idle 1
    onWords fun w =>
      let (word, flagged) := w.offsetSp (operand.setWidth 8)
      flagged.setPair .hl word
  | .addSp =>
    idle 2
    onWords fun w =>
      let (word, flagged) := w.offsetSp (operand.setWidth 8)
      { flagged with sp := word }
  | .push source =>
    idle 1
    push ((← getWords).pair source)
  | .pop target =>
    let word ← pop
    onWords (·.setPair target word)
  | .inc target =>
    let value ← load target
    let result := value + 1
    onWords fun w => w.setFlags (result = 0) false (BitVec.carry 4 value 1 false) w.carry
    store target result
  | .dec target =>
    let value ← load target
    let result := value - 1
    onWords fun w => w.setFlags (result = 0) true (!BitVec.carry 4 value (~~~1) true) w.carry
    store target result
  | .incWord target =>
    idle 1
    onWords fun w => w.setPair target (w.pair target + 1)
  | .decWord target =>
    idle 1
    onWords fun w => w.setPair target (w.pair target - 1)
  | .arithmetic operation source =>
    let value ← load source
    onWords (·.accumulate operation value)
  | .arithmeticByte operation => onWords (·.accumulate operation (operand.setWidth 8))
  | .addHl source =>
    idle 1
    onWords fun w => w.addToHl (w.pair source)
  | .rotateA right through =>
    let rotation :=
      match right, through with
      | false, false => .rlc
      | true, false => .rrc
      | false, true => .rl
      | true, true => .rr
    onWords (·.rotateA rotation)
  | .daa => onWords (·.adjustDecimal)
  | .cpl => onWords fun w => { w.setFlags w.zero true true w.carry with a := ~~~w.a }
  | .scf => onWords fun w => w.setFlags w.zero false false true
  | .ccf => onWords fun w => w.setFlags w.zero false false (!w.carry)
  | .jump test => if (← getWords).holds test then jump operand
  | .jumpHl => onWords fun w => { w with pc := w.pair .hl }
  | .jumpRelative test =>
    if (← getWords).holds test then
      jump ((← getWords).pc + (operand.setWidth 8).signExtend 16)
  | .call test =>
    if (← getWords).holds test then
      push (← getWords).pc
      jump operand
  | .ret test =>
    if test.isSome then idle 1
    if (← getWords).holds test then jump (← pop)
  | .reti =>
    jump (← pop)
    modify fun m => { m with ime := true }
  | .rst index =>
    push (← getWords).pc
    jump (8 * index.setWidth 16)
  | .rotate rotation target =>
    let value ← load target
    let (result, out) := Words.rotated rotation value (← getWords).carry
    onWords fun w => w.setFlags (result = 0) false false out
    store target result
  | .bit index source =>
    let value ← load source
    onWords fun w => w.setFlags (!value.getLsbD index.toNat) false true w.carry
  | .reset index target =>
    let value ← load target
    store target (value &&& ~~~(1#8 <<< index.toNat))
  | .set index target =>
    let value ← load target
    store target (value ||| 1#8 <<< index.toNat)

/-- Fetches the next operation; the extension byte is followed by its second byte. -/
def next? : StateM Machine (Option Operation) := do
  let opcode ← fetch
  if opcode = extension then
    return some (decodeExtended (← fetch))
  else
    return decode? opcode

/-- Fetches the operand of an operation and carries it out. A master switch that was to go on
does so behind any operation but one that switches it off.
-/
def complete (operation : Operation) : StateM Machine Unit := do
  let enabling := (← get).eiPending
  execute operation (← fetchOperand operation.operandBytes)
  if enabling ∧ operation ≠ .di then
    modify fun m => { m with eiPending := false, ime := true }

/-- One step of a running processor, which ends all waiting. There is none on an opcode without
an operation.
-/
def step? (m : Machine) : Option Machine :=
  let (operation?, fetched) :=
    next?.run { m with halted := false, stopped := false, ticks := 0 }
  operation?.map fun operation => ((complete operation).run fetched).2

/-- The clock cycles of a step, four for each machine cycle. -/
def Machine.cycles (m : Machine) : Nat :=
  4 * m.ticks

end Handheld.Reference
