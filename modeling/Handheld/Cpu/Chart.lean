import Handheld.Cpu.Instruction

/-!
The opcode chart: which instruction each byte stands for on the base page and on the extended
page. Eleven bytes of the base page stand for nothing.
-/

namespace Handheld.Cpu.Chart

section Operands

private def a : Operand := .register .a
private def b : Operand := .register .b
private def c : Operand := .register .c
private def d : Operand := .register .d
private def e : Operand := .register .e
private def h : Operand := .register .h
private def l : Operand := .register .l
private def atBc : Operand := .memory .bc
private def atDe : Operand := .memory .de
private def atHl : Operand := .memory .hl
private def atHlUp : Operand := .memory .hlUp
private def atHlDown : Operand := .memory .hlDown
private def atPageC : Operand := .memory .pageC
private def atPage : Operand := .memory .page
private def atAddress : Operand := .memory .absolute

end Operands

/-- The operands of a regular block of eight opcodes, in order of their low three bits. -/
def targets : List Operand := [b, c, d, e, h, l, atHl, a]

section Rows

open Instruction

private def row0 : List (Option Instruction) :=
  [nop, loadWord .bc, load atBc a, incWord .bc, inc b, dec b, load b .immediate, rlca,
    storeSp, addHl .bc, load a atBc, decWord .bc, inc c, dec c, load c .immediate, rrca]

private def row1 : List (Option Instruction) :=
  [stop, loadWord .de, load atDe a, incWord .de, inc d, dec d, load d .immediate, rla,
    jumpRelative none, addHl .de, load a atDe, decWord .de, inc e, dec e, load e .immediate, rra]

private def row2 : List (Option Instruction) :=
  [jumpRelative (some .nz), loadWord .hl, load atHlUp a, incWord .hl,
    inc h, dec h, load h .immediate, daa,
    jumpRelative (some .z), addHl .hl, load a atHlUp, decWord .hl,
    inc l, dec l, load l .immediate, cpl]

private def row3 : List (Option Instruction) :=
  [jumpRelative (some .nc), loadWord .sp, load atHlDown a, incWord .sp,
    inc atHl, dec atHl, load atHl .immediate, scf,
    jumpRelative (some .c), addHl .sp, load a atHlDown, decWord .sp,
    inc a, dec a, load a .immediate, ccf]

private def row4 : List (Option Instruction) :=
  [load b b, load b c, load b d, load b e, load b h, load b l, load b atHl, load b a,
    load c b, load c c, load c d, load c e, load c h, load c l, load c atHl, load c a]

private def row5 : List (Option Instruction) :=
  [load d b, load d c, load d d, load d e, load d h, load d l, load d atHl, load d a,
    load e b, load e c, load e d, load e e, load e h, load e l, load e atHl, load e a]

private def row6 : List (Option Instruction) :=
  [load h b, load h c, load h d, load h e, load h h, load h l, load h atHl, load h a,
    load l b, load l c, load l d, load l e, load l h, load l l, load l atHl, load l a]

private def row7 : List (Option Instruction) :=
  [load atHl b, load atHl c, load atHl d, load atHl e, load atHl h, load atHl l, halt, load atHl a,
    load a b, load a c, load a d, load a e, load a h, load a l, load a atHl, load a a]

private def arithmeticRow (low high : Arithmetic) : List (Option Instruction) :=
  targets.map (fun source => some (arithmetic low source))
    ++ targets.map (fun source => some (arithmetic high source))

private def rowC : List (Option Instruction) :=
  [ret (some .nz), pop .bc, jump (some .nz), jump none,
    call (some .nz), push .bc, arithmetic .add .immediate, rst 0x00,
    ret (some .z), ret none, jump (some .z), extend,
    call (some .z), call none, arithmetic .adc .immediate, rst 0x08]

private def rowD : List (Option Instruction) :=
  [ret (some .nc), pop .de, jump (some .nc), none,
    call (some .nc), push .de, arithmetic .sub .immediate, rst 0x10,
    ret (some .c), reti, jump (some .c), none,
    call (some .c), none, arithmetic .sbc .immediate, rst 0x18]

private def rowE : List (Option Instruction) :=
  [load atPage a, pop .hl, load atPageC a, none,
    none, push .hl, arithmetic .and .immediate, rst 0x20,
    addSpOffset, jumpHl, load atAddress a, none,
    none, none, arithmetic .xor .immediate, rst 0x28]

private def rowF : List (Option Instruction) :=
  [load a atPage, pop .af, load a atPageC, di,
    none, push .af, arithmetic .or .immediate, rst 0x30,
    hlFromSpOffset, spFromHl, load a atAddress, ei,
    none, none, arithmetic .cp .immediate, rst 0x38]

/-- The base page, sixteen opcodes a row. -/
def base : Array (Option Instruction) :=
  (row0 ++ row1 ++ row2 ++ row3 ++ row4 ++ row5 ++ row6 ++ row7
    ++ arithmeticRow .add .adc ++ arithmeticRow .sub .sbc
    ++ arithmeticRow .and .xor ++ arithmeticRow .or .cp
    ++ rowC ++ rowD ++ rowE ++ rowF).toArray

/-- The extended page: rotations, then tests, clears and sets of each bit, every operation over
all eight operands. -/
def extended : Array Instruction :=
  let rotations : List Rotation := [.rlc, .rrc, .rl, .rr, .sla, .sra, .swap, .srl]
  let overBits (operation : Nat → Operand → Instruction) : List Instruction :=
    (List.range 8).flatMap fun index => targets.map (operation index)
  (rotations.flatMap (fun operation => targets.map (rotate operation))
    ++ overBits bit ++ overBits reset ++ overBits set).toArray

end Rows

/-- The instruction that an opcode of the base page starts, or nothing if none is defined. -/
def decode? (opcode : Byte) : Option Instruction :=
  base[opcode.toNat]?.join

/-- The instruction that a byte after the extension byte stands for. -/
def decodeExtended (opcode : Byte) : Instruction :=
  extended[opcode.toNat]?.getD .nop

end Handheld.Cpu.Chart
