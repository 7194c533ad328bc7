import Handheld.Bits
import Handheld.Text.Basic

/-!
Hexadecimal text: numbers padded to a width, and byte strings as pairs of digits.
-/

namespace Handheld.Text

/-- The digits of a number in base sixteen, most significant first. -/
def hexDigits (n : Nat) : List Char :=
  Nat.toDigits 16 n

/-- Lower-case hexadecimal text, padded with zeros to `width` characters. A minus sign stands in
front of the zeros and counts towards the width. -/
def lowerHex (width : Nat) (value : Int) : List Char :=
  let sign := if value < 0 then ['-'] else []
  let digits := hexDigits value.natAbs
  let zeros := List.replicate (width - sign.length - digits.length) '0'
  sign ++ zeros ++ digits

/-- The same in upper case. -/
def hex (width : Nat) (value : Int) : String :=
  String.ofList ((lowerHex width value).map Char.toUpper)

/-- Two lower-case digits for a byte. -/
def hexByte (byte : Byte) : List Char :=
  [Nat.digitChar (byte.toNat / 16), Nat.digitChar (byte.toNat % 16)]

/-- A byte string as lower-case digits without separators. -/
def hexOfBytes (bytes : List Byte) : String :=
  String.ofList (bytes.flatMap hexByte)

/-- The value of one hexadecimal digit of either case. -/
def hexValue? (c : Char) : Option Nat :=
  if '0' ≤ c ∧ c ≤ '9' then some (c.toNat - '0'.toNat)
  else if 'a' ≤ c ∧ c ≤ 'f' then some (c.toNat - 'a'.toNat + 10)
  else if 'A' ≤ c ∧ c ≤ 'F' then some (c.toNat - 'A'.toNat + 10)
  else none

/-- The ASCII characters that may stand between two bytes. -/
def isSeparator (c : Char) : Bool :=
  c = ' ' ∨ (9 ≤ c.toNat ∧ c.toNat ≤ 13)

/-- Reads pairs of digits. Separators may stand between two bytes but not inside one. -/
def bytesOfHexChars? : List Char → Option (List Byte)
  | [] => some []
  | c :: rest =>
    if isSeparator c then bytesOfHexChars? rest
    else match rest with
      | [] => none
      | d :: rest => do
        let high ← hexValue? c
        let low ← hexValue? d
        let bytes ← bytesOfHexChars? rest
        return BitVec.ofNat 8 (high * 16 + low) :: bytes

/-- The bytes that a hexadecimal text spells, or nothing if it is malformed. -/
def bytesOfHex? (text : Text) : Option (List Byte) :=
  text.chars?.bind bytesOfHexChars?

end Handheld.Text
