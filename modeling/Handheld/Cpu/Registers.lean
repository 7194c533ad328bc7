import Handheld.Bits
import Handheld.Text.Hex

/-!
The register file: seven 8-bit registers, four flags, the stack pointer and the program counter.
Registers are integers because a host may store any number in them; every instruction brings
what it writes back into range.
-/

namespace Handheld.Cpu

/-- Names of the four flags, from the top bit of the flag register downwards. -/
inductive Flag
  | z
  | n
  | h
  | c
  deriving DecidableEq, Repr

namespace Flag

/-- All flags, the top bit first. -/
def all : List Flag := [.z, .n, .h, .c]

/-- The letter of a flag. -/
def name : Flag → String
  | .z => "Z"
  | .n => "N"
  | .h => "H"
  | .c => "C"

/-- The flag with a given letter. -/
def ofName? (name : Text) : Option Flag :=
  all.find? fun flag => flag.name = name

end Flag

/-- Zero, subtraction, half carry and carry: all that the flag register can hold. -/
structure Flags where
  z : Bool := false
  n : Bool := false
  h : Bool := false
  c : Bool := false
  deriving DecidableEq, Repr

namespace Flags

/-- The flag register as a byte. Its low four bits are wired to zero. -/
def toInt (flags : Flags) : Int :=
  (128 * flags.z.toNat + 64 * flags.n.toNat + 32 * flags.h.toNat + 16 * flags.c.toNat : Nat)

/-- The flags that a number written to the flag register leaves. -/
def ofInt (value : Int) : Flags :=
  { z := Bits.bit 7 value, n := Bits.bit 6 value, h := Bits.bit 5 value, c := Bits.bit 4 value }

/-- The state of one flag. -/
def get (flags : Flags) : Flag → Bool
  | .z => flags.z
  | .n => flags.n
  | .h => flags.h
  | .c => flags.c

/-- Sets one flag. -/
def set (flags : Flags) (flag : Flag) (on : Bool) : Flags :=
  match flag with
  | .z => { flags with z := on }
  | .n => { flags with n := on }
  | .h => { flags with h := on }
  | .c => { flags with c := on }

/-- Sets several flags at once; a flag without a new state keeps its old one. -/
def update (flags : Flags) (z n h c : Option Bool) : Flags :=
  { z := z.getD flags.z, n := n.getD flags.n, h := h.getD flags.h, c := c.getD flags.c }

end Flags

/-- The register file. -/
structure Registers where
  a : Int := 0x01
  flags : Flags := { z := true, n := false, h := true, c := true }
  /-- Whether the flags were last set one by one and not as a number. -/
  flagwise : Bool := false
  b : Int := 0x00
  c : Int := 0x13
  d : Int := 0x00
  e : Int := 0xD8
  h : Int := 0x01
  l : Int := 0x4D
  sp : Int := 0xFFFE
  pc : Int := 0x0100
  deriving DecidableEq, Repr

/-- The 8-bit registers that instructions name. -/
inductive Register8
  | a
  | b
  | c
  | d
  | e
  | h
  | l
  deriving DecidableEq, Repr

/-- The 16-bit registers that instructions name. -/
inductive Register16
  | af
  | bc
  | de
  | hl
  | sp
  deriving DecidableEq, Repr

/-- Every name under which a host can read or assign a register. -/
inductive RegisterName
  | byte (register : Register8)
  | flags
  | word (register : Register16)
  | pc
  deriving DecidableEq, Repr

/-- The registers that hold the content of a 16-bit register. -/
def Register16.holders : Register16 → List RegisterName
  | .af => [.byte .a, .flags]
  | .bc => [.byte .b, .byte .c]
  | .de => [.byte .d, .byte .e]
  | .hl => [.byte .h, .byte .l]
  | .sp => [.word .sp]

namespace Registers

/-- The values that the boot program leaves behind. -/
def powerOn : Registers := {}

/-- The content of an 8-bit register. -/
def get8 (registers : Registers) : Register8 → Int
  | .a => registers.a
  | .b => registers.b
  | .c => registers.c
  | .d => registers.d
  | .e => registers.e
  | .h => registers.h
  | .l => registers.l

/-- Stores a number in an 8-bit register as it is. -/
def set8 (registers : Registers) (register : Register8) (value : Int) : Registers :=
  match register with
  | .a => { registers with a := value }
  | .b => { registers with b := value }
  | .c => { registers with c := value }
  | .d => { registers with d := value }
  | .e => { registers with e := value }
  | .h => { registers with h := value }
  | .l => { registers with l := value }

/-- The flag register. -/
def f (registers : Registers) : Int :=
  registers.flags.toInt

/-- Leaves flags that are set one by one. -/
def setFlags (registers : Registers) (flags : Flags) : Registers :=
  { registers with flags, flagwise := true }

/-- Replaces the flags by what a number leaves of them. -/
def loadFlags (registers : Registers) (value : Int) : Registers :=
  { registers with flags := Flags.ofInt value, flagwise := false }

/-- The same registers, as if their flags had been set as a number. -/
def settled (registers : Registers) : Registers :=
  { registers with flagwise := false }

/-- The content of a 16-bit register; a pair has its first register as high byte. The pair with
the flags is never below zero when they were set one by one. -/
def get16 (registers : Registers) : Register16 → Int
  | .af =>
    let af := Bits.join registers.a registers.f
    if registers.flagwise then Bits.raise af else af
  | .bc => Bits.join registers.b registers.c
  | .de => Bits.join registers.d registers.e
  | .hl => Bits.join registers.h registers.l
  | .sp => registers.sp

/-- Stores a number in a 16-bit register. A pair keeps its low sixteen bits; the stack pointer
takes the number as it is. -/
def set16 (registers : Registers) (register : Register16) (value : Int) : Registers :=
  let high := value / 256 % 256
  let low := value % 256
  match register with
  | .af => { registers.loadFlags value with a := high }
  | .bc => { registers with b := high, c := low }
  | .de => { registers with d := high, e := low }
  | .hl => { registers with h := high, l := low }
  | .sp => { registers with sp := value }

/-- What a host reads under a register's name. -/
def read (registers : Registers) : RegisterName → Int
  | .byte register => registers.get8 register
  | .flags => registers.f
  | .word register => registers.get16 register
  | .pc => registers.pc

/-- What a host's assignment to a register's name does. -/
def assign (registers : Registers) (name : RegisterName) (value : Int) : Registers :=
  match name with
  | .byte register => registers.set8 register value
  | .flags => registers.loadFlags value
  | .word register => registers.set16 register value
  | .pc => { registers with pc := value }

end Registers

namespace RegisterName

/-- All names. -/
def all : List RegisterName :=
  [.byte .a, .flags, .byte .b, .byte .c, .byte .d, .byte .e, .byte .h, .byte .l,
    .word .sp, .pc, .word .af, .word .bc, .word .de, .word .hl]

/-- The spelling of a register's name. -/
def text : RegisterName → String
  | .byte .a => "a"
  | .byte .b => "b"
  | .byte .c => "c"
  | .byte .d => "d"
  | .byte .e => "e"
  | .byte .h => "h"
  | .byte .l => "l"
  | .flags => "f"
  | .word .af => "af"
  | .word .bc => "bc"
  | .word .de => "de"
  | .word .hl => "hl"
  | .word .sp => "sp"
  | .pc => "pc"

/-- The register with a given name. -/
def ofText? (text : Text) : Option RegisterName :=
  all.find? fun register => register.text = text

end RegisterName

end Handheld.Cpu
