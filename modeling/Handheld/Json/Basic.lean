import Handheld.Decimal.Layout
import Handheld.Text.Basic
import Handheld.Text.Blank
import Handheld.Text.DecimalDigit

/-!
JSON values, with the readings that saved states and settings allow: nearly anything may stand
for a number or a switch, and what cannot is refused for one of a few reasons.
-/

namespace Handheld

/-- A number, written without or with a fraction or exponent. -/
inductive Number
  | int (value : Int)
  | float (value : Float)

/-- A JSON value. The members of an object keep their order. -/
inductive Json
  | null
  | bool (value : Bool)
  | number (value : Number)
  | string (value : Text)
  | array (items : List Json)
  | object (members : List (Text × Json))

/-- Why a value cannot be read in the way that was asked for. -/
inductive Misfit
  /-- A value of the wrong sort altogether. -/
  | wrongSort
  /-- Text or a number without a sensible reading. -/
  | unreadable
  /-- An infinite number where a whole number is needed. -/
  | unbounded
  /-- Members are asked of a value that is no object. -/
  | notObject
  /-- A name that means nothing here. -/
  | unknownName
  deriving DecidableEq, Repr

namespace Number

/-- The whole number next to a number towards zero. -/
def toInt : Number → Except Misfit Int
  | .int value => .ok value
  | .float value =>
    if value.isNaN then .error .unreadable
    else if value.isInf then .error .unbounded
    else .ok (Decimal.truncate value)

/-- Whether a number is neither infinite nor undefined. -/
def isFinite : Number → Bool
  | .int _ => true
  | .float value => !(value.isNaN || value.isInf)

/-- The greatest whole number that is not above a finite number. -/
def floor : Number → Int
  | .int value => value
  | .float value => Decimal.floor value

/-- The least whole number that is not below a finite number. -/
def ceil : Number → Int
  | .int value => value
  | .float value => Decimal.ceil value

/-- The floating-point number next to a number. -/
def toFloat : Number → Except Misfit Float
  | .int value =>
    let next := Float.ofInt value
    if next.isInf then .error .unbounded else .ok next
  | .float value => .ok value

/-- The sum of two numbers. It is whole only if both are. -/
def add : Number → Number → Number
  | .int a, .int b => .int (a + b)
  | .int a, .float b => .float (Float.ofInt a + b)
  | .float a, .int b => .float (a + Float.ofInt b)
  | .float a, .float b => .float (a + b)

/-- Whether a number lies at or below another one. -/
def atMost : Number → Number → Bool
  | .int a, .int b => a ≤ b
  | .float a, .float b => a ≤ b
  | .int a, .float b => if isFinite (.float b) then a ≤ Decimal.floor b else 0 < b
  | .float a, .int b => if isFinite (.float a) then Decimal.ceil a ≤ b else a < 0

/-- Whether a number lies below zero. -/
def isNegative : Number → Bool
  | .int value => value < 0
  | .float value => value < 0

/-- Whether a number differs from zero. -/
def isNonzero : Number → Bool
  | .int value => value ≠ 0
  | .float value => !(value == 0)

/-- A number in a message. -/
def text : Number → String
  | .int value => toString value
  | .float value => Decimal.inMessages.render value

/-- Whether a whole number is exactly the value of a floating-point number. -/
def equalsFloat (value : Int) (x : Float) : Bool :=
  if x.isNaN || x.isInf then false
  else
    let binary := Decimal.Binary.ofBits x.toBits
    let scaled : Int := binary.mantissa * Decimal.power 2 binary.exponent
    let signed := if Decimal.isNegative x then -scaled else scaled
    value * Decimal.power 2 (-binary.exponent) = signed

/-- Whether two numbers have the same value, however they are written. -/
def same : Number → Number → Bool
  | .int a, .int b => a = b
  | .int a, .float b => equalsFloat a b
  | .float a, .int b => equalsFloat b a
  | .float a, .float b => a == b

end Number

/-- Reads digits of any script, with single underscores between digits. -/
def readDigits : List Char → Nat → Option Nat
  | [], value => some value
  | [c], value => (Text.digitValue? c).map (10 * value + ·)
  | c :: '_' :: d :: rest, value => do
    let digit ← Text.digitValue? c
    readDigits (d :: rest) (10 * value + digit)
  | c :: rest, value => do
    let digit ← Text.digitValue? c
    readDigits rest (10 * value + digit)

/-- How many digits a whole number may have to be read. -/
abbrev digitLimit : Nat := 4300

/-- Reads a whole number without its sign. -/
def readNat? (digits : List Char) : Option Nat :=
  if digits.isEmpty ∨ digits.countP (· ≠ '_') > digitLimit then none else readDigits digits 0

/-- Reads a whole number: white space around it, a sign, and at least one digit. -/
def readInt? (text : Text) : Option Int := do
  match Text.strip Text.isWhiteSpace (← text.chars?) with
  | '-' :: digits => return -((← readNat? digits) : Int)
  | '+' :: digits => return ((← readNat? digits) : Int)
  | digits => return ((← readNat? digits) : Int)

namespace Json

/-- A whole number as a value. -/
def int (value : Int) : Json := .number (.int value)

/-- A floating-point number as a value. -/
def float (value : Float) : Json := .number (.float value)

/-- The value of a member, if this is an object that has it. -/
def find? (key : Text) : Json → Option Json
  | .object members => members.lookup key
  | _ => none

/-- The whole number that a value stands for. -/
def toInt : Json → Except Misfit Int
  | .bool value => .ok value.toNat
  | .number value => value.toInt
  | .string value =>
    match readInt? value with
    | some value => .ok value
    | none => .error .unreadable
  | _ => .error .wrongSort

/-- Whether a value counts as switched on. Nothing, zero and what is empty count as off. -/
def isOn : Json → Bool
  | .null => false
  | .bool value => value
  | .number value => value.isNonzero
  | .string value => !value.isEmpty
  | .array items => !items.isEmpty
  | .object members => !members.isEmpty

/-- A member of an object, or a default if the object lacks it. -/
def member (value : Json) (key : Text) (default : Json) : Except Misfit Json :=
  match value with
  | .object members => .ok ((members.lookup key).getD default)
  | _ => .error .notObject

/-- A member read as a whole number. -/
def intMember (value : Json) (key : Text) (default : Int) : Except Misfit Int := do
  (← value.member key (.int default)).toInt

/-- A member read as a switch. -/
def switchMember (value : Json) (key : Text) (default : Bool) : Except Misfit Bool := do
  return (← value.member key (.bool default)).isOn

/-- The number that a value is; truth values count as one and zero. -/
def toNumber : Json → Except Misfit Number
  | .bool value => .ok (.int value.toNat)
  | .number value => .ok value
  | _ => .error .wrongSort

/-- The whole number that a value is; truth values count as one and zero. No other value can be an
operand of bit operations or the number of a place. -/
def toOperand : Json → Except Misfit Int
  | .bool value => .ok value.toNat
  | .number (.int value) => .ok value
  | _ => .error .wrongSort

/-- The whole number that a value is, if a length can be compared with it. -/
def toLength (value : Json) : Except Misfit Int := do
  let length ← value.toOperand
  if length < -0x8000000000000000 ∨ 0x8000000000000000 ≤ length then throw .unbounded
  return length

/-- The address that a value gives. A floating-point number counts if it is one of the known
addresses; otherwise neither it nor a text can be told as an address. -/
def toAddress (known : Int → Bool) : Json → Except Misfit Int
  | .number (.float value) =>
    let whole := Decimal.floor value
    if Number.equalsFloat whole value ∧ known whole then .ok whole else .error .unreadable
  | .string _ => .error .unreadable
  | value => value.toOperand

/-- A value under which something can be looked up. Lists and objects are none. -/
def toKey : Json → Except Misfit Json
  | .array _ | .object _ => .error .wrongSort
  | value => .ok value

/-- What a value names. Lists and objects are no names at all. -/
def toNamed {α : Type} (find? : Text → Option α) : Json → Except Misfit α
  | .string name =>
    match find? name with
    | some named => .ok named
    | none => .error .unknownName
  | .array _ | .object _ => .error .wrongSort
  | _ => .error .unknownName

/-- What a value lists: the items of an array, the keys of an object, the code points of a
text. -/
def elements : Json → Except Misfit (List Json)
  | .array items => .ok items
  | .object members => .ok (members.map fun (key, _) => .string key)
  | .string value => .ok (value.points.map fun point => .string ⟨[point]⟩)
  | _ => .error .wrongSort

/-- Replaces the value of a key, which keeps its place, or adds the key at the end. -/
def insertMember (key : Text) (value : Json) : List (Text × Json) → List (Text × Json)
  | [] => [(key, value)]
  | (k, v) :: rest =>
    if k = key then (key, value) :: rest else (k, v) :: insertMember key value rest

/-- Members in which every key occurs once, with the value given last. -/
def dedupe (members : List (Text × Json)) : List (Text × Json) :=
  members.foldl (fun done (key, value) => insertMember key value done) []

mutual

/-- Whether two values are equal: numbers and truth values by their value, objects whatever the
order of their members. -/
def same : Json → Json → Bool
  | .null, .null => true
  | .bool a, .bool b => a = b
  | .bool a, .number b => Number.same (.int a.toNat) b
  | .number a, .bool b => Number.same a (.int b.toNat)
  | .number a, .number b => a.same b
  | .string a, .string b => a = b
  | .array a, .array b => sameItems a b
  | .object a, .object b => a.length = b.length && sameMembers a b
  | _, _ => false

/-- Whether two lists hold equal values at equal places. -/
def sameItems : List Json → List Json → Bool
  | [], [] => true
  | a :: as, b :: bs => a.same b && sameItems as bs
  | _, _ => false

/-- Whether every member of the first object occurs with an equal value in the second. -/
def sameMembers : List (Text × Json) → List (Text × Json) → Bool
  | [], _ => true
  | (key, value) :: rest, others =>
    (match others.lookup key with
      | some other => value.same other
      | none => false)
      && sameMembers rest others

end

end Json

end Handheld
