import Handheld.Bits
import Handheld.Text.Basic

/-!
Bytes that hold a text in one of the Unicode encodings. Which one it is shows in a mark at the
start, or in where the first bytes are zero. Surrogates may stand in all of them as if they were
characters.
-/

namespace Handheld.Text

/-- The order of the bytes of a code unit. -/
inductive ByteOrder
  /-- The low byte comes first. -/
  | little
  /-- The high byte comes first. -/
  | big
  deriving DecidableEq, Repr

/-- The Unicode encodings, with the number of bits in a code unit. -/
inductive Encoding
  | utf8
  | utf16 (order : ByteOrder)
  | utf32 (order : ByteOrder)
  deriving DecidableEq, Repr

namespace Encoding

/-- The marks with which a text may begin. The longer of two that begin alike comes first. -/
def marks : List (List Byte × Encoding) :=
  [([0x00, 0x00, 0xFE, 0xFF], .utf32 .big), ([0xFF, 0xFE, 0x00, 0x00], .utf32 .little),
    ([0xFE, 0xFF], .utf16 .big), ([0xFF, 0xFE], .utf16 .little), ([0xEF, 0xBB, 0xBF], .utf8)]

/-- The encoding of a text without a mark, as long as it begins with ASCII. -/
def ofZeros : List Byte → Encoding
  | a :: b :: c :: d :: _ =>
    if a = 0 then if b = 0 then .utf32 .big else .utf16 .big
    else if b = 0 then if c = 0 ∧ d = 0 then .utf32 .little else .utf16 .little
    else .utf8
  | [a, b] => if a = 0 then .utf16 .big else if b = 0 then .utf16 .little else .utf8
  | _ => .utf8

/-- The encoding of a text and its bytes without the mark. -/
def detect (bytes : List Byte) : Encoding × List Byte :=
  let marked := marks.findSome? fun (mark, encoding) =>
    (mark.isPrefixOf? bytes).map fun rest => (encoding, rest)
  marked.getD (ofZeros bytes, bytes)

/-- The number of a code unit. -/
def unitOf (order : ByteOrder) (bytes : List Byte) : Nat :=
  let highFirst :=
    match order with
    | .big => bytes
    | .little => bytes.reverse
  highFirst.foldl (fun unit byte => 256 * unit + byte.toNat) 0

/-- A character of several bytes of which some are still missing. -/
structure Sequel where
  missing : Nat
  /-- The number as far as it is known. -/
  number : Nat
  /-- The least number that takes so many bytes. -/
  least : Nat
  deriving DecidableEq, Repr

/-- What a first byte beyond ASCII announces. -/
def Sequel.ofLead? (byte : Byte) : Option Sequel :=
  let value := byte.toNat
  if 0xC0 ≤ value ∧ value < 0xE0 then some ⟨1, value - 0xC0, 0x80⟩
  else if 0xE0 ≤ value ∧ value < 0xF0 then some ⟨2, value - 0xE0, 0x800⟩
  else if 0xF0 ≤ value ∧ value < 0xF8 then some ⟨3, value - 0xF0, 0x10000⟩
  else none

/-- Code points of one to four bytes, after a part of one perhaps. No code point takes more bytes
than it needs. -/
def decode8 : Option Sequel → List Byte → Option (List CodePoint)
  | none, [] => some []
  | some _, [] => none
  | none, byte :: rest =>
    if byte.toNat < 0x80 then (decode8 none rest).map (.ofNumber byte.toNat :: ·)
    else
      match Sequel.ofLead? byte with
      | some sequel => decode8 (some sequel) rest
      | none => none
  | some ⟨missing, known, least⟩, byte :: rest =>
    let number := known * 64 + byte.toNat % 64
    if byte.toNat / 64 ≠ 2 then none
    else if missing > 1 then decode8 (some ⟨missing - 1, number, least⟩) rest
    else if least ≤ number ∧ number < 0x110000 then
      (decode8 none rest).map (.ofNumber number :: ·)
    else none

/-- Code points of two bytes, or of two halves of two bytes each. -/
def decode16 (order : ByteOrder) : List Byte → Option (List CodePoint)
  | [] => some []
  | [_] => none
  | [a, b] => some [.ofNumber (unitOf order [a, b])]
  | [_, _, _] => none
  | a :: b :: c :: d :: rest =>
    let first := unitOf order [a, b]
    let second := unitOf order [c, d]
    if CodePoint.isPair first second then
      (decode16 order rest).map (.ofPair first second :: ·)
    else (decode16 order (c :: d :: rest)).map (.ofNumber first :: ·)

/-- Code points of four bytes each. -/
def decode32 (order : ByteOrder) : List Byte → Option (List CodePoint)
  | [] => some []
  | a :: b :: c :: d :: rest =>
    let number := unitOf order [a, b, c, d]
    if number < 0x110000 then (decode32 order rest).map (.ofNumber number :: ·) else none
  | _ => none

/-- The code points of bytes in a given encoding, if they are well-formed. -/
def decode : Encoding → List Byte → Option (List CodePoint)
  | .utf8, bytes => decode8 none bytes
  | .utf16 order, bytes => decode16 order bytes
  | .utf32 order, bytes => decode32 order bytes

end Encoding

/-- The text that bytes hold, if they are well-formed. -/
def ofBytes? (bytes : List Byte) : Option Text :=
  let (encoding, body) := Encoding.detect bytes
  (encoding.decode body).map Text.mk

end Handheld.Text
