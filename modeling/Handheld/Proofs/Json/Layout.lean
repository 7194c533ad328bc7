import Handheld.Proofs.Json.Numbers
import Handheld.Proofs.Json.Strings

/-! The texts of documents that are written with indentation, as code points.
A text is taken apart at its brackets, separators and lines, and how its parts begin is told without
looking into them. Floating-point numbers are left out.
-/

namespace Handheld.Json

mutual

/-- Whether a value holds no floating-point number. -/
def isExact : Json → Bool
  | .number (.float _) => false
  | .array items => areExact items
  | .object members => haveExact members
  | _ => true

/-- Whether no item holds a floating-point number. -/
def areExact : List Json → Bool
  | [] => true
  | item :: items => item.isExact && areExact items

/-- Whether no member holds a floating-point number. -/
def haveExact : List (Text × Json) → Bool
  | [] => true
  | (_, value) :: members => value.isExact && haveExact members

end

-----------------------------------------------------------------------------------------
-- Written texts as code points
-----------------------------------------------------------------------------------------

/-- The code points of a written text. -/
def pointsOf (string : String) : List CodePoint := (Text.ofString string).points

theorem pointsOf_append (a b : String) : pointsOf (a ++ b) = pointsOf a ++ pointsOf b := by
  simp [pointsOf, Text.ofString, Text.ofChars]

theorem pointsOf_renderString (text : Text)
    : pointsOf (renderString text)
        = .char '\x22' :: (written text.points ++ [.char '\x22']) := by
  simp [pointsOf, Text.ofString, Text.ofChars, renderString, written, List.map_flatMap]

/-- A whole number is written with a sign in front of its digits if it lies below zero. -/
theorem pointsOf_toString (value : Int)
    : pointsOf (toString value)
        = (if value < 0 then [.char '-'] else [])
            ++ (Nat.toDigits 10 value.natAbs).map .char := by
  rw [Int.toString_eq_repr, Int.repr_eq_if]
  split
  case isTrue positive =>
    have same : value.toNat = value.natAbs := by omega
    rw [if_neg (by omega), same, pointsOf, Text.ofString, Nat.toList_repr]
    rfl
  case isFalse negative =>
    have same : (-value).toNat = value.natAbs := by omega
    rw [if_pos (by omega), same, pointsOf_append]
    congr 1
    rw [pointsOf, Text.ofString, Nat.toList_repr, Text.ofChars]

/-- The items of an array between its brackets, each on a line. -/
def writtenItems (level : Nat) (items : List Json) : List CodePoint :=
  pointsOf (("," ++ newline level).intercalate (indentedItems level items))

/-- The members of an object between its braces, each on a line. -/
def writtenMembers (level : Nat) (members : List (Text × Json)) : List CodePoint :=
  pointsOf (("," ++ newline level).intercalate (indentedMembers level members))

theorem pointsOf_intercalate (level : Nat) (part next : String) (parts : List String)
    : pointsOf (("," ++ newline level).intercalate (part :: next :: parts))
        = pointsOf part ++ .char ',' :: (pointsOf (newline level)
            ++ pointsOf (("," ++ newline level).intercalate (next :: parts))) := by
  have comma : pointsOf "," = [.char ','] := rfl
  rw [String.intercalate_cons_cons, pointsOf_append, pointsOf_append, pointsOf_append, comma,
    List.append_assoc, List.append_assoc, List.singleton_append]

theorem pointsOf_block_nil (level : Nat) (opening closing : String)
    : pointsOf (block level opening closing []) = pointsOf opening ++ pointsOf closing := by
  rw [block, List.isEmpty_nil, if_pos rfl, pointsOf_append]

theorem pointsOf_block_cons (level : Nat) (opening closing part : String) (parts : List String)
    : pointsOf (block level opening closing (part :: parts))
        = pointsOf opening ++ (pointsOf (newline (level + 1))
            ++ (pointsOf (("," ++ newline (level + 1)).intercalate (part :: parts))
              ++ (pointsOf (newline level) ++ pointsOf closing))) := by
  rw [block, List.isEmpty_cons, if_neg Bool.false_ne_true]
  simp only [pointsOf_append, List.append_assoc]

theorem writtenItems_singleton (level : Nat) (item : Json)
    : writtenItems level [item] = pointsOf (item.indented level) := by
  rw [writtenItems, indentedItems, indentedItems, String.intercalate_singleton]

theorem writtenItems_cons_cons (level : Nat) (item next : Json) (items : List Json)
    : writtenItems level (item :: next :: items)
        = pointsOf (item.indented level)
            ++ .char ',' :: (pointsOf (newline level) ++ writtenItems level (next :: items)) := by
  rw [writtenItems, indentedItems, indentedItems, pointsOf_intercalate, ← indentedItems,
    ← writtenItems]

theorem writtenMembers_singleton (level : Nat) (key : Text) (value : Json)
    : writtenMembers level [(key, value)]
        = pointsOf (renderString key ++ ": ") ++ pointsOf (value.indented level) := by
  rw [writtenMembers, indentedMembers, indentedMembers, String.intercalate_singleton,
    pointsOf_append]

theorem writtenMembers_cons_cons (level : Nat) (key : Text) (value : Json) (next : Text × Json)
    (members : List (Text × Json))
    : writtenMembers level ((key, value) :: next :: members)
        = pointsOf (renderString key ++ ": ") ++ (pointsOf (value.indented level)
            ++ .char ',' :: (pointsOf (newline level)
              ++ writtenMembers level (next :: members))) := by
  rw [writtenMembers, indentedMembers, indentedMembers, pointsOf_intercalate, ← indentedMembers,
    ← writtenMembers, pointsOf_append, List.append_assoc]

theorem pointsOf_array_nil (level : Nat)
    : pointsOf ((Json.array []).indented level) = [.char '[', .char ']'] := by
  have opening : pointsOf "[" = [.char '['] := rfl
  have closing : pointsOf "]" = [.char ']'] := rfl
  rw [indented, indentedItems, pointsOf_block_nil, opening, closing]
  rfl

theorem pointsOf_object_nil (level : Nat)
    : pointsOf ((Json.object []).indented level) = [.char '\x7b', .char '\x7d'] := by
  have opening : pointsOf "\x7b" = [.char '\x7b'] := rfl
  have closing : pointsOf "\x7d" = [.char '\x7d'] := rfl
  rw [indented, indentedMembers, pointsOf_block_nil, opening, closing]
  rfl

theorem pointsOf_array_cons (level : Nat) (item : Json) (items : List Json)
    : pointsOf ((Json.array (item :: items)).indented level)
        = .char '[' :: (pointsOf (newline (level + 1)) ++ (writtenItems (level + 1) (item :: items)
            ++ (pointsOf (newline level) ++ [.char ']']))) := by
  rw [indented, indentedItems, pointsOf_block_cons, ← indentedItems, ← writtenItems]
  rfl

theorem pointsOf_object_cons (level : Nat) (member : Text × Json) (members : List (Text × Json))
    : pointsOf ((Json.object (member :: members)).indented level)
        = .char '\x7b' :: (pointsOf (newline (level + 1))
            ++ (writtenMembers (level + 1) (member :: members)
              ++ (pointsOf (newline level) ++ [.char '\x7d']))) := by
  rw [indented, indentedMembers, pointsOf_block_cons, ← indentedMembers, ← writtenMembers]
  rfl

-----------------------------------------------------------------------------------------
-- What a written value begins with and ends at
-----------------------------------------------------------------------------------------

theorem ends_newline (level : Nat) (text : List CodePoint)
    : Ends (pointsOf (newline level) ++ text) := by
  intro point first
  rw [newline, pointsOf, Text.ofString, String.toList_ofList] at first
  exact .inr (Option.some.inj first).symm

theorem skipSpace_newline (level : Nat) (text : List CodePoint)
    : skipSpace (pointsOf (newline level) ++ text) = skipSpace text := by
  refine List.dropWhile_append_of_pos fun point inside => ?_
  rw [newline, pointsOf, Text.ofString, String.toList_ofList, Text.ofChars] at inside
  obtain ⟨c, member, rfl⟩ := List.mem_map.mp inside
  rcases List.mem_cons.mp member with rfl | member
  · rfl
  · rw [List.eq_of_mem_replicate member]
    rfl

/-- A character that a written value can begin with is no white space and no closing bracket. -/
def opens (c : Char) : Bool :=
  !isSpace (.char c) && c != ']' && c != '\x7d'

theorem opens_of_isDigit {c : Char} (digit : c.isDigit = true) : opens c = true := by
  have apart (d : Char) (other : d.isDigit = false) : ¬ d = c := (ne_of_isDigit digit other).symm
  simp [opens, isSpace, apart ' ' rfl, apart '\t' rfl, apart '\n' rfl, apart '\r' rfl,
    ne_of_isDigit digit (d := ']') rfl, ne_of_isDigit digit (d := '\x7d') rfl]

/-- A text begins like a written value. -/
def Begins (text : List CodePoint) : Prop :=
  ∃ c more, text = .char c :: more ∧ opens c = true

theorem Begins.append {text : List CodePoint} (begins : Begins text) (rest : List CodePoint)
    : Begins (text ++ rest) := by
  obtain ⟨c, more, rfl, opening⟩ := begins
  exact ⟨c, more ++ rest, rfl, opening⟩

/-- White space is skipped before a value and not within it. -/
theorem Begins.skipSpace_eq {text : List CodePoint} (begins : Begins text)
    : skipSpace text = text := by
  obtain ⟨c, more, rfl, opening⟩ := begins
  simp only [opens, Bool.and_eq_true, Bool.not_eq_true'] at opening
  rw [skipSpace, List.dropWhile_cons, opening.1.1, if_neg Bool.false_ne_true]

theorem begins_renderString (text : Text) : Begins (pointsOf (renderString text)) :=
  ⟨'\x22', _, pointsOf_renderString text, rfl⟩

theorem begins_indented {value : Json} (exact : value.isExact = true) (level : Nat)
    : Begins (pointsOf (value.indented level)) := by
  match value with
  | .null =>
      rw [indented]
      exact ⟨'n', pointsOf "ull", rfl, rfl⟩
  | .bool true =>
      rw [indented]
      exact ⟨'t', pointsOf "rue", rfl, rfl⟩
  | .bool false =>
      rw [indented]
      exact ⟨'f', pointsOf "alse", rfl, rfl⟩
  | .number (.int value) =>
      rw [indented, renderNumber, pointsOf_toString]
      split
      case isTrue => exact ⟨'-', _, rfl, rfl⟩
      case isFalse =>
        obtain ⟨c, digits, spelled, digit⟩ := exists_digit value.natAbs
        rw [spelled]
        exact ⟨c, _, rfl, opens_of_isDigit digit⟩
  | .number (.float _) => cases exact
  | .string text =>
      rw [indented]
      exact begins_renderString text
  | .array items =>
      rw [indented]
      cases indentedItems (level + 1) items with
      | nil => exact ⟨'[', _, pointsOf_block_nil .., rfl⟩
      | cons part parts => exact ⟨'[', _, pointsOf_block_cons .., rfl⟩
  | .object members =>
      rw [indented]
      cases indentedMembers (level + 1) members with
      | nil => exact ⟨'\x7b', _, pointsOf_block_nil .., rfl⟩
      | cons part parts => exact ⟨'\x7b', _, pointsOf_block_cons .., rfl⟩

theorem begins_writtenItems {item : Json} (exact : item.isExact = true) (items : List Json)
    (level : Nat)
    : Begins (writtenItems level (item :: items)) := by
  have begins := begins_indented exact level
  cases items with
  | nil => rwa [writtenItems_singleton]
  | cons next items =>
      rw [writtenItems_cons_cons]
      exact begins.append _

theorem begins_writtenMembers (member : Text × Json) (members : List (Text × Json)) (level : Nat)
    : Begins (writtenMembers level (member :: members)) := by
  obtain ⟨key, value⟩ := member
  have begins : Begins (pointsOf (renderString key ++ ": ")) := by
    rw [pointsOf_append]
    exact (begins_renderString key).append _
  cases members with
  | nil =>
      rw [writtenMembers_singleton]
      exact begins.append _
  | cons next members =>
      rw [writtenMembers_cons_cons]
      exact begins.append _
-- Where lengths of texts are compared, no text is to be spelled out for it.
attribute [irreducible] pointsOf

end Handheld.Json
