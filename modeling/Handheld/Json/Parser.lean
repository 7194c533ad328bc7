import Handheld.Json.Basic
import Handheld.Text.Hex

/-!
Reading JSON text. Beyond the standard, numbers may be `NaN` and infinite; of two members with one
name the later counts; a surrogate without its partner stays as it is. The first thing found wrong,
from left to right, decides why a text is refused.
-/

namespace Handheld.Json

/-- Why a text is not read as a document. -/
inductive Refusal
  /-- The text is no JSON. -/
  | malformed
  /-- A whole number has more digits than can be read. -/
  | longNumber
  /-- Arrays and objects are nested too deeply. -/
  | deepNesting
  deriving DecidableEq, Repr

/-- How many arrays and objects may lie within each other. -/
abbrev depthLimit : Nat := 990

/-- How much a reader of documents puts up with. -/
structure Limits where
  /-- The most digits that a whole number may have, if there is a limit to them. -/
  digits : Option Nat := some digitLimit
  /-- The most arrays and objects that may lie within each other, if there is a limit to them. -/
  depth : Option Nat := some depthLimit
  deriving DecidableEq, Repr

/-- The limits of the standard, which sets none. -/
def Limits.standard : Limits where
  digits := none
  depth := none

/-- The white space between tokens. -/
def isSpace (point : CodePoint) : Bool :=
  [' ', '\t', '\n', '\r'].any (.char · = point)

/-- The text after white space. -/
def skipSpace (text : List CodePoint) : List CodePoint :=
  text.dropWhile isSpace

/-- The value of a hexadecimal digit. -/
def readHexDigit (point : CodePoint) : Option Nat :=
  point.char?.bind Text.hexValue?

/-- Four hexadecimal digits as a number. -/
def readHex4 (a b c d : CodePoint) : Except Refusal Nat :=
  match readHexDigit a, readHexDigit b, readHexDigit c, readHexDigit d with
  | some a, some b, some c, some d => .ok (((a * 16 + b) * 16 + c) * 16 + d)
  | _, _, _, _ => .error .malformed

/-- The character that a letter after a backslash stands for. -/
def unescape? : Char → Option Char
  | '\x22' => some '\x22'
  | '\\' => some '\\'
  | '/' => some '/'
  | 'b' => some '\x08'
  | 'f' => some '\x0c'
  | 'n' => some '\n'
  | 'r' => some '\r'
  | 't' => some '\t'
  | _ => none

/-- A code point in front of those that have been read. -/
def consPoint (point : CodePoint) (reading : Except Refusal (List CodePoint × List CodePoint))
    : Except Refusal (List CodePoint × List CodePoint) :=
  reading.map fun (points, rest) => (point :: points, rest)

/-- Reads a string after its opening quote, up to and including the closing one. -/
def readString : List CodePoint → Except Refusal (List CodePoint × List CodePoint)
  | .char '\\' :: .char 'u' :: a :: b :: c :: d :: rest => do
    let unit ← readHex4 a b c d
    match rest with
    | .char '\\' :: .char 'u' :: e :: f :: g :: h :: after =>
      let second ← readHex4 e f g h
      if CodePoint.isPair unit second then
        consPoint (.ofPair unit second) (readString after)
      else
        consPoint (.ofNumber unit)
          (readString (.char '\\' :: .char 'u' :: e :: f :: g :: h :: after))
    | rest => consPoint (.ofNumber unit) (readString rest)
  | .char '\\' :: .char c :: rest =>
    match unescape? c with
    | some plain => consPoint (.char plain) (readString rest)
    | none => throw .malformed
  | .char '\x22' :: rest => return ([], rest)
  | point :: rest =>
    if point = .char '\\' ∨ point.number < 0x20 then throw .malformed
    else consPoint point (readString rest)
  | [] => throw .malformed

/-- The number that ASCII digits stand for. -/
def natOf (digits : List Char) : Nat :=
  digits.foldl (fun value c => 10 * value + (c.toNat - '0'.toNat)) 0

/-- The floating-point number nearest to `mantissa * 10 ^ exponent`. Numbers far outside the range
are decided by their size alone. -/
def floatOf (mantissa : Nat) (exponent : Int) : Float :=
  let magnitude : Int := (Nat.toDigits 10 mantissa).length + exponent
  if mantissa = 0 ∨ magnitude < -400 then 0.0
  else if magnitude > 400 then 1.0 / 0.0
  else Float.ofScientific mantissa (exponent < 0) exponent.natAbs

/-- The ASCII digits that a text begins with, and the rest of it. -/
def takeDigits (text : List CodePoint) : List Char × List CodePoint :=
  let isDigit (point : CodePoint) : Bool := point.char?.any Char.isDigit
  ((text.takeWhile isDigit).filterMap CodePoint.char?, text.dropWhile isDigit)

/-- Digits behind a point, if a point with at least one digit follows. -/
def readFraction (text : List CodePoint) : List Char × List CodePoint :=
  match text with
  | .char '.' :: rest =>
    let (digits, rest) := takeDigits rest
    if digits.isEmpty then ([], text) else (digits, rest)
  | _ => ([], text)

/-- The sign in front of an exponent, and the rest of the text. -/
def readSign : List CodePoint → Int × List CodePoint
  | .char '-' :: rest => (-1, rest)
  | .char '+' :: rest => (1, rest)
  | rest => (1, rest)

/-- An exponent, if a mark with at least one digit follows. -/
def readExponent (text : List CodePoint) : Option Int × List CodePoint :=
  match text with
  | .char 'e' :: rest | .char 'E' :: rest =>
    let (sign, rest) := readSign rest
    let (digits, rest) := takeDigits rest
    if digits.isEmpty then (none, text) else (some (sign * natOf digits), rest)
  | _ => (none, text)

/-- Reads a number without its sign. A whole part of more than one digit does not start with zero,
so after a leading zero nothing more is taken. -/
def readNumber (limits : Limits) (negative : Bool) (text : List CodePoint)
    : Except Refusal (Number × List CodePoint) := do
  let (digits, _) := takeDigits text
  let whole := if digits.head? = some '0' then ['0'] else digits
  if whole.isEmpty then
    throw .malformed
  let (fraction, rest) := readFraction (text.drop whole.length)
  let (exponent, rest) := readExponent rest
  if fraction.isEmpty ∧ exponent.isNone then
    if limits.digits.any (· < whole.length) then
      throw .longNumber
    let value : Int := natOf whole
    return (.int (if negative then -value else value), rest)
  else
    let value := floatOf (natOf (whole ++ fraction)) (exponent.getD 0 - fraction.length)
    return (.float (if negative then -value else value), rest)

/-- Reads one of the words that stand for a value. -/
def readWord? : List CodePoint → Option (Json × List CodePoint)
  | .char 'n' :: .char 'u' :: .char 'l' :: .char 'l' :: rest => some (.null, rest)
  | .char 't' :: .char 'r' :: .char 'u' :: .char 'e' :: rest => some (.bool true, rest)
  | .char 'f' :: .char 'a' :: .char 'l' :: .char 's' :: .char 'e' :: rest =>
    some (.bool false, rest)
  | .char 'N' :: .char 'a' :: .char 'N' :: rest => some (.number (.float (0.0 / 0.0)), rest)
  | .char '-' :: rest =>
    (readInfinity? rest).map fun rest => (.number (.float (-1.0 / 0.0)), rest)
  | text => (readInfinity? text).map fun rest => (.number (.float (1.0 / 0.0)), rest)
where
  /-- The text after the word for an infinite number. -/
  readInfinity? (text : List CodePoint) : Option (List CodePoint) :=
    (Text.ofString "Infinity").points.isPrefixOf? text

mutual

/-- Reads one value within `depth` arrays and objects. The budget bounds the depth of nesting and
the length of lists. -/
def readValue (limits : Limits) (depth : Nat)
    : Nat → List CodePoint → Except Refusal (Json × List CodePoint)
  | 0, _ => throw .malformed
  | budget + 1, text =>
    match readWord? text with
    | some reading => return reading
    | none =>
      match text with
      | .char '\x22' :: rest => do
        let (points, rest) ← readString rest
        return (.string ⟨points⟩, rest)
      | .char '[' :: rest =>
        if limits.depth = some depth then throw .deepNesting
        else
          match skipSpace rest with
          | .char ']' :: rest => return (.array [], rest)
          | rest => do
            let (items, rest) ← readItems limits (depth + 1) budget rest
            return (.array items, rest)
      | .char '\x7b' :: rest =>
        if limits.depth = some depth then throw .deepNesting
        else
          match skipSpace rest with
          | .char '\x7d' :: rest => return (.object [], rest)
          | rest => do
            let (members, rest) ← readMembers limits (depth + 1) budget rest
            return (.object (dedupe members), rest)
      | .char '-' :: rest => do
        let (value, rest) ← readNumber limits true rest
        return (.number value, rest)
      | text => do
        let (value, rest) ← readNumber limits false text
        return (.number value, rest)

/-- Reads the items of an array up to the closing bracket. -/
def readItems (limits : Limits) (depth : Nat)
    : Nat → List CodePoint → Except Refusal (List Json × List CodePoint)
  | 0, _ => throw .malformed
  | budget + 1, text => do
    let (item, rest) ← readValue limits depth budget (skipSpace text)
    match skipSpace rest with
    | .char ',' :: rest =>
      let (items, rest) ← readItems limits depth budget rest
      return (item :: items, rest)
    | .char ']' :: rest => return ([item], rest)
    | _ => throw .malformed

/-- Reads the members of an object up to the closing brace. -/
def readMembers (limits : Limits) (depth : Nat)
    : Nat → List CodePoint → Except Refusal (List (Text × Json) × List CodePoint)
  | 0, _ => throw .malformed
  | budget + 1, text =>
    match skipSpace text with
    | .char '\x22' :: rest => do
      let (key, rest) ← readString rest
      match skipSpace rest with
      | .char ':' :: rest =>
        let (value, rest) ← readValue limits depth budget (skipSpace rest)
        match skipSpace rest with
        | .char ',' :: rest =>
          let (members, rest) ← readMembers limits depth budget rest
          return ((⟨key⟩, value) :: members, rest)
        | .char '\x7d' :: rest => return ([(⟨key⟩, value)], rest)
        | _ => throw .malformed
      | _ => throw .malformed
    | _ => throw .malformed

end

/-- Reads a text that holds exactly one value. -/
def parse (text : Text) (limits : Limits := {}) : Except Refusal Json := do
  let (value, rest) ← readValue limits 0 (text.points.length + 1) (skipSpace text.points)
  if (skipSpace rest).isEmpty then return value else throw .malformed

end Handheld.Json
