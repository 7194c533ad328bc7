/-!
Bit operations on unbounded integers, read as two's-complement strings without an end, and the
stored words of the machine.
-/

namespace Handheld

/-- One stored byte. -/
abbrev Byte := BitVec 8

/-- One 16-bit counter or address. -/
abbrev Word := BitVec 16

namespace Bits

/-- Bitwise conjunction. On negative numbers the complement of one operand is removed from the
other, so `land x (2 ^ k - 1)` is always `x % 2 ^ k`. -/
def land : Int → Int → Int
  | .ofNat m, .ofNat n => (m &&& n : Nat)
  | .ofNat m, .negSucc n => (m - (m &&& n) : Nat)
  | .negSucc m, .ofNat n => (n - (n &&& m) : Nat)
  | .negSucc m, .negSucc n => .negSucc (m ||| n)

/-- Bitwise disjunction. -/
def lor : Int → Int → Int
  | .ofNat m, .ofNat n => (m ||| n : Nat)
  | .ofNat m, .negSucc n => .negSucc (n - (n &&& m))
  | .negSucc m, .ofNat n => .negSucc (m - (m &&& n))
  | .negSucc m, .negSucc n => .negSucc (m &&& n)

/-- Bitwise exclusive disjunction. -/
def lxor : Int → Int → Int
  | .ofNat m, .ofNat n => (m ^^^ n : Nat)
  | .ofNat m, .negSucc n => .negSucc (m ^^^ n)
  | .negSucc m, .ofNat n => .negSucc (m ^^^ n)
  | .negSucc m, .negSucc n => (m ^^^ n : Nat)

/-- Bit `index` of a number. -/
def bit (index : Nat) (value : Int) : Bool :=
  (value >>> index) % 2 = 1

/-- The number in which only bit `index` is set. -/
def single (index : Nat) : Int :=
  (1 <<< index : Nat)

/-- A high part followed by an 8-bit low part. -/
def join (high low : Int) : Int :=
  lor (high * 256) low

/-- A number that is not below zero stays. One that a byte can hold as its complement becomes that
byte, and a lower one moves up by the least power of two beyond its size. -/
def raise (value : Int) : Int :=
  if 0 ≤ value then value
  else if -256 ≤ value then value + 256
  else value + single (Nat.log2 value.natAbs + 1)

/-- The number that a byte stands for when its top bit counts as a sign. -/
def signed (value : Int) : Int :=
  if bit 7 value then value - 256 else value

end Bits

/-- One of the 65536 addresses. -/
abbrev Address := Fin 0x10000

/-- The address that a number denotes, modulo 65536. -/
def Address.ofInt (number : Int) : Address :=
  ⟨(number % 0x10000).toNat, by omega⟩

/-- The low eight bits of a number. -/
def Byte.ofInt (value : Int) : Byte :=
  BitVec.ofInt 8 value

/-- The low sixteen bits of a number. -/
def Word.ofInt (value : Int) : Word :=
  BitVec.ofInt 16 value

/-- The number from 0 to 255 that a byte holds. -/
def Byte.value (byte : Byte) : Int :=
  byte.toNat

/-- The number from 0 to 65535 that a word holds. -/
def Word.value (word : Word) : Int :=
  word.toNat

end Handheld
