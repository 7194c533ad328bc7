/-!
Texts as documents hold them. A document can name a surrogate by its number although it is no
character, so a text is a list of code points and not only of characters.
-/

namespace Handheld

/-- A code point: a character, or one of the surrogates, which stand for nothing on their own. -/
inductive CodePoint
  | char (c : Char)
  | surrogate (offset : Fin 0x800)
  deriving DecidableEq, Repr

namespace CodePoint

/-- The number of a code point. -/
def number : CodePoint → Nat
  | .char c => c.toNat
  | .surrogate offset => 0xD800 + offset

/-- The code point of a number. A number that is too large becomes the replacement character. -/
def ofNumber (number : Nat) : CodePoint :=
  if surrogate : 0xD800 ≤ number ∧ number < 0xE000 then .surrogate ⟨number - 0xD800, by omega⟩
  else if number < 0x110000 then .char (Char.ofNat number)
  else .char '\ufffd'

/-- Whether two code units are the halves of one character. -/
def isPair (high low : Nat) : Bool :=
  0xD800 ≤ high ∧ high < 0xDC00 ∧ 0xDC00 ≤ low ∧ low < 0xE000

/-- The code point of two halves. -/
def ofPair (high low : Nat) : CodePoint :=
  ofNumber (0x10000 + (high - 0xD800) * 0x400 + (low - 0xDC00))

/-- The character that a code point is, unless it is a surrogate. -/
def char? : CodePoint → Option Char
  | .char c => some c
  | .surrogate _ => none

end CodePoint

/-- A text. -/
structure Text where
  points : List CodePoint
  deriving DecidableEq, Repr

namespace Text

/-- The text of some characters. -/
def ofChars (chars : List Char) : Text :=
  ⟨chars.map .char⟩

/-- A string as a text. -/
def ofString (string : String) : Text :=
  ofChars string.toList

instance : Coe String Text := ⟨ofString⟩

instance : Append Text := ⟨fun a b => ⟨a.points ++ b.points⟩⟩

/-- Whether a text has no code points at all. -/
def isEmpty (text : Text) : Bool :=
  text.points.isEmpty

/-- Whether a text stands before another one in the order of their code points, or equals it. -/
def atMost (a b : Text) : Bool :=
  within a.points b.points
where
  within : List CodePoint → List CodePoint → Bool
    | [], _ => true
    | _ :: _, [] => false
    | a :: as, b :: bs => a.number < b.number || (a.number == b.number && within as bs)

/-- The characters of a text, unless it holds a surrogate. -/
def chars? (text : Text) : Option (List Char) :=
  text.points.mapM CodePoint.char?

/-- The string that a text is, unless it holds a surrogate. -/
def string? (text : Text) : Option String :=
  text.chars?.map String.ofList

/-- Reading the characters of a text made of characters gives them back. -/
theorem chars?_ofChars (chars : List Char) : (ofChars chars).chars? = some chars := by
  induction chars with
  | nil => rfl
  | cons c rest ih =>
    simp only [chars?, ofChars, List.map_cons, List.mapM_cons, CodePoint.char?] at ih ⊢
    simp [ih]

end Text

end Handheld
