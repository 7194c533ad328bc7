import Handheld.Json.Parser
import Handheld.Json.Printer
import Handheld.Proofs.Text.Hexadecimal
import Mathlib.Data.List.Chain

/-! Strings in documents.
A string is read as it was written, with one reservation: the two halves of a character that stand
next to each other as code points of their own are written like the character, and read as it.
-/

namespace Handheld

-----------------------------------------------------------------------------------------
-- Halves of characters
-----------------------------------------------------------------------------------------

namespace CodePoint

/-- The numbers of characters leave those of the surrogates out. -/
theorem char_apart (c : Char) : c.toNat < 0xD800 ∨ 0xDFFF < c.toNat ∧ c.toNat < 0x110000 :=
  c.valid

/-- A code point is made again from its number. -/
theorem ofNumber_number (point : CodePoint) : ofNumber point.number = point := by
  cases point with
  | surrogate offset =>
      have bound := offset.isLt
      have inside : 0xD800 ≤ 0xD800 + offset.val ∧ 0xD800 + offset.val < 0xE000 := by omega
      simp [number, ofNumber, inside]
  | char c =>
      have valid := char_apart c
      have apart : ¬ (0xD800 ≤ c.toNat ∧ c.toNat < 0xE000) := by omega
      have below : c.toNat < 0x110000 := by omega
      rw [number, ofNumber, dif_neg apart, if_pos below, Char.ofNat_toNat]

theorem isPair_iff {high low : Nat}
    : isPair high low = true ↔ 0xD800 ≤ high ∧ high < 0xDC00 ∧ 0xDC00 ≤ low ∧ low < 0xE000 := by
  simp [isPair]

/-- A character is no half of one. -/
theorem isPair_char (c : Char) (low : Nat) : isPair (number (.char c)) low = false := by
  have valid := char_apart c
  rw [Bool.eq_false_iff, ne_eq, isPair_iff, number]
  omega

end CodePoint

open CodePoint (isPair ofPair ofNumber)

namespace Text

/-- Code points in which two neighbours that are the halves of a character have become it. -/
def joinedPoints : List CodePoint → List CodePoint
  | a :: b :: rest =>
      if isPair a.number b.number then ofPair a.number b.number :: joinedPoints rest
      else a :: joinedPoints (b :: rest)
  | rest => rest

/-- A text after its halves of characters have been joined. -/
def joined (text : Text) : Text := ⟨joinedPoints text.points⟩

/-- No two neighbours are the halves of a character. -/
def Whole (text : Text) : Prop :=
  text.points.IsChain fun a b => isPair a.number b.number = false

theorem length_joinedPoints_le (points : List CodePoint)
    : (joinedPoints points).length ≤ points.length := by
  fun_induction joinedPoints points with
  | case1 a b rest pair ih =>
      simp only [List.length_cons]
      omega
  | case2 a b rest apart ih => simpa using ih
  | case3 rest short => exact Nat.le_refl _

/-- Joining changes just the texts that can be told to need it, by their lengths. -/
theorem joined_eq_iff (text : Text) : text.joined = text ↔ text.Whole := by
  obtain ⟨points⟩ := text
  rw [joined, Whole, Text.mk.injEq]
  dsimp only
  fun_induction joinedPoints points with
  | case1 a b rest pair ih =>
      have shorter := length_joinedPoints_le rest
      constructor
      · intro same
        have lengths := congrArg List.length same
        simp only [List.length_cons] at lengths
        omega
      · intro whole
        rw [List.isChain_cons_cons, pair] at whole
        cases whole.1
  | case2 a b rest apart ih =>
      rw [List.cons.injEq, ih, List.isChain_cons_cons]
      simp [apart]
  | case3 rest short =>
      match rest with
      | [] => simp
      | [_] => simp
      | a :: b :: rest => exact absurd rfl (short a b rest)

/-- A text of characters needs no joining. -/
theorem whole_ofString (string : String) : (ofString string).Whole := by
  have chars : ∀ chars : List Char,
      (chars.map CodePoint.char).IsChain fun a b => isPair a.number b.number = false := by
    intro chars
    induction chars with
    | nil => exact .nil
    | cons c rest ih =>
        cases rest with
        | nil => exact .singleton _
        | cons d rest => exact .cons_cons (CodePoint.isPair_char c _) ih
  exact chars string.toList

theorem joined_ofString (string : String) : (ofString string).joined = ofString string :=
  (joined_eq_iff _).mpr (whole_ofString string)

end Text

namespace Json

-----------------------------------------------------------------------------------------
-- How code points are written
-----------------------------------------------------------------------------------------

/-- The ways in which a code point is written inside a string. -/
inductive Escaped : CodePoint → List Char → Prop
  /-- Printable ASCII stands for itself, apart from what has a meaning of its own. -/
  | plain {c : Char} (printable : 0x20 ≤ c.toNat ∧ c.toNat < 0x7F) (unquoted : c ≠ '\x22')
      (unescaped : c ≠ '\\')
    : Escaped (.char c) [c]
  | letter {c d : Char} (short : unescape? d = some c) : Escaped (.char c) ['\\', d]
  | unit (point : CodePoint) (small : point.number < 0x10000)
    : Escaped point (unitEscape point.number)
  /-- Beyond the sixteenth bit a character is written in two halves. -/
  | pair {high low : Nat} (halves : isPair high low = true)
    : Escaped (ofPair high low) (unitEscape high ++ unitEscape low)

/-- A character beyond the sixteenth bit is made of its halves. -/
theorem escaped_halves {c : Char} (large : 0x10000 ≤ c.toNat)
    : Escaped (.char c) (unitEscape (0xD800 + (c.toNat - 0x10000) / 0x400)
        ++ unitEscape (0xDC00 + (c.toNat - 0x10000) % 0x400)) := by
  have valid := CodePoint.char_apart c
  let offset := c.toNat - 0x10000
  have bound : offset < 0x100000 := by omega
  have whole : 0x10000 + offset = c.toNat := by omega
  have pair : ofPair (0xD800 + offset / 0x400) (0xDC00 + offset % 0x400) = .char c := by
    rw [ofPair, Nat.add_sub_cancel_left, Nat.add_sub_cancel_left, Nat.add_assoc, Nat.div_add_mod',
      whole]
    exact CodePoint.ofNumber_number (.char c)
  rw [← pair]
  exact .pair (CodePoint.isPair_iff.mpr (by omega))

theorem escaped (point : CodePoint) : Escaped point (escapePoint point) := by
  cases point with
  | surrogate offset =>
      have bound := offset.isLt
      exact .unit (.surrogate offset) (by rw [CodePoint.number]; omega)
  | char c =>
      rw [escapePoint]
      split_ifs with quoted line feed tab back form printable small
      · rcases quoted with rfl | rfl <;> exact .letter rfl
      · subst line; exact .letter rfl
      · subst feed; exact .letter rfl
      · subst tab; exact .letter rfl
      · subst back; exact .letter rfl
      · subst form; exact .letter rfl
      · rw [not_or] at quoted
        exact .plain printable quoted.1 quoted.2
      · exact .unit (.char c) small
      · exact escaped_halves (Nat.not_lt.mp small)

/-- Beyond ASCII a character takes one unit or two. -/
example : renderString (Text.ofString "ë😀") = "\x22\\u00eb\\ud83d\\ude00\x22" := by
  decide

/-- What a text is written as inside a string. -/
def written (points : List CodePoint) : List CodePoint :=
  points.flatMap fun point => (escapePoint point).map .char

-----------------------------------------------------------------------------------------
-- How a string is read
-----------------------------------------------------------------------------------------

theorem readString_quote (rest : List CodePoint)
    : readString (.char '\x22' :: rest) = .ok ([], rest) := by
  rw [readString]
  rfl

theorem readString_plain {c : Char} (printable : 0x20 ≤ c.toNat) (unquoted : c ≠ '\x22')
    (unescaped : c ≠ '\\') (rest : List CodePoint)
    : readString (.char c :: rest) = consPoint (.char c) (readString rest) := by
  rw [readString, if_neg]
  · rw [CodePoint.char.injEq, CodePoint.number, not_or]
    exact ⟨unescaped, Nat.not_lt.mpr printable⟩
  · exact fun _ _ _ _ _ same => absurd (CodePoint.char.inj same) unescaped
  · exact fun _ _ same => absurd (CodePoint.char.inj same) unescaped
  · exact fun same => absurd (CodePoint.char.inj same) unquoted

theorem readString_letter {c d : Char} (short : unescape? d = some c) (rest : List CodePoint)
    : readString (.char '\\' :: .char d :: rest) = consPoint (.char c) (readString rest) := by
  rw [readString, short]
  rintro _ _ _ _ _ _ rfl
  cases short

/-- A code unit in front of a text is no first half of a character whose second half the text begins
with. -/
def Apart (unit : Nat) (text : List CodePoint) : Prop :=
  ∀ e f g h after, text = .char '\\' :: .char 'u' :: e :: f :: g :: h :: after →
    ∃ second, readHex4 e f g h = .ok second ∧ isPair unit second = false

/-- The digits of an escape are read as its code unit. -/
theorem exists_unitEscape {unit : Nat} (small : unit < 0x10000)
    : ∃ a b c d, (unitEscape unit).map CodePoint.char = [.char '\\', .char 'u', a, b, c, d]
        ∧ readHex4 a b c d = .ok unit := by
  obtain ⟨a, b, c, d, digits, read⟩ := exists_hexTail small
  refine ⟨a, b, c, d, ?_, read⟩
  rw [unitEscape, List.map_cons, List.map_cons, digits]

theorem readString_unit {unit : Nat} (small : unit < 0x10000) {rest : List CodePoint}
    (apart : Apart unit rest)
    : readString ((unitEscape unit).map .char ++ rest)
        = consPoint (.ofNumber unit) (readString rest) := by
  obtain ⟨a, b, c, d, written, read⟩ := exists_unitEscape small
  simp only [written, List.cons_append, List.nil_append]
  rw [readString, read]
  dsimp only [bind, Except.bind]
  split
  case h_1 e f g h after =>
    obtain ⟨second, read, single⟩ := apart e f g h after rfl
    rw [read]
    simp only [single, Bool.false_eq_true, if_false]
  case h_2 => rfl

/-- Two halves in a row are read as one character. -/
theorem readString_pair {high low : Nat} (pair : isPair high low = true) (rest : List CodePoint)
    : readString ((unitEscape high ++ unitEscape low).map .char ++ rest)
        = consPoint (ofPair high low) (readString rest) := by
  obtain ⟨_, small, _, small'⟩ := CodePoint.isPair_iff.mp pair
  obtain ⟨a, b, c, d, written, first⟩ := exists_unitEscape (small.trans (by decide))
  obtain ⟨e, f, g, h, written', second⟩ := exists_unitEscape (small'.trans (by decide))
  simp only [List.map_append, written, written', List.cons_append, List.nil_append]
  rw [readString, first]
  simp only [bind, Except.bind, second, pair, if_true]

/-- A code point is read as it was written, unless what follows makes it half of a character. -/
theorem readString_escapePoint (point : CodePoint) {rest : List CodePoint}
    (apart : Apart point.number rest)
    : readString ((escapePoint point).map .char ++ rest) = consPoint point (readString rest) := by
  have way := escaped point
  generalize escapePoint point = chars at way ⊢
  cases way with
  | plain printable unquoted unescaped =>
      exact readString_plain printable.1 unquoted unescaped rest
  | letter short => exact readString_letter short rest
  | unit _ small => rw [readString_unit small apart, CodePoint.ofNumber_number]
  | pair halves => exact readString_pair halves rest

-----------------------------------------------------------------------------------------
-- How a text is read
-----------------------------------------------------------------------------------------

theorem apart_quote (unit : Nat) (rest : List CodePoint) : Apart unit (.char '\x22' :: rest) :=
  fun _ _ _ _ _ same => by cases same

theorem apart_unitEscape {unit second : Nat} (small : second < 0x10000)
    (single : isPair unit second = false) (rest : List CodePoint)
    : Apart unit ((unitEscape second).map .char ++ rest) := by
  intro e f g h after same
  obtain ⟨a, b, c, d, written, read⟩ := exists_unitEscape small
  rw [written] at same
  cases same
  exact ⟨second, read, single⟩

/-- What a code point is written as begins with the second half of a character only if the code point
is that half. -/
theorem apart_escapePoint {unit : Nat} {point : CodePoint}
    (single : isPair unit point.number = false) (rest : List CodePoint)
    : Apart unit ((escapePoint point).map .char ++ rest) := by
  have way := escaped point
  generalize escapePoint point = chars at way ⊢
  cases way with
  | plain printable unquoted unescaped =>
      intro _ _ _ _ _ same
      cases same
      exact absurd rfl unescaped
  | letter short =>
      intro _ _ _ _ _ same
      cases same
      cases short
  | unit _ small => exact apart_unitEscape small single rest
  | @pair high low halves =>
      have first : isPair unit high = false := by
        rw [Bool.eq_false_iff, ne_eq, CodePoint.isPair_iff]
        have bounds := CodePoint.isPair_iff.mp halves
        omega
      rw [List.map_append, List.append_assoc]
      exact apart_unitEscape ((CodePoint.isPair_iff.mp halves).2.1.trans (by decide)) first _

/-- A half of a character is written as a single unit. -/
theorem escapePoint_half {point : CodePoint}
    (half : 0xD800 ≤ point.number ∧ point.number < 0xE000)
    : escapePoint point = unitEscape point.number := by
  cases point with
  | surrogate offset => rfl
  | char c =>
      have valid := CodePoint.char_apart c
      rw [CodePoint.number] at half
      omega

/-- The halves of a character are written like the character, and read as it. -/
theorem readString_halves {a b : CodePoint} (pair : isPair a.number b.number = true)
    (rest : List CodePoint)
    : readString ((escapePoint a).map .char ++ ((escapePoint b).map .char ++ rest))
        = consPoint (ofPair a.number b.number) (readString rest) := by
  obtain ⟨high, high', low, low'⟩ := CodePoint.isPair_iff.mp pair
  rw [escapePoint_half ⟨high, by omega⟩, escapePoint_half ⟨by omega, low'⟩, ← List.append_assoc,
    ← List.map_append]
  exact readString_pair pair rest

/-- A string is read as it was written, with the halves of characters joined. -/
theorem readString_written (points rest : List CodePoint)
    : readString (written points ++ .char '\x22' :: rest)
        = .ok (Text.joinedPoints points, rest) := by
  fun_induction Text.joinedPoints points with
  | case1 a b more pair ih =>
      rw [written, List.flatMap_cons, List.flatMap_cons, List.append_assoc, List.append_assoc,
        readString_halves pair, ← written, ih]
      rfl
  | case2 a b more apart ih =>
      rw [Bool.not_eq_true] at apart
      have next := apart_escapePoint apart (written more ++ .char '\x22' :: rest)
      rw [written, List.flatMap_cons, List.append_assoc, readString_escapePoint a, ← written, ih]
      · rfl
      · rwa [List.flatMap_cons, List.append_assoc]
  | case3 points short =>
      match points with
      | [] => exact readString_quote rest
      | [point] =>
          rw [written, List.flatMap_singleton, readString_escapePoint point (apart_quote _ rest),
            readString_quote]
          rfl
      | a :: b :: more => exact absurd rfl (short a b more)

end Json

end Handheld
