import Handheld.Proofs.Json.Layout

/-! Written documents are ASCII.
Whatever is in them, their characters are printable ASCII and line breaks, so every encoding that
agrees with ASCII keeps them as they are. Floating-point numbers are left out.
-/

namespace Handheld.Json

/-- A line break or printable ASCII. -/
def isPlain (c : Char) : Bool := c = '\n' || (0x20 ≤ c.toNat && c.toNat < 0x7F)

/-- A string has no characters but line breaks and printable ASCII. -/
def Plain (string : String) : Prop := string.toList.all isPlain = true

theorem Plain.append {a b : String} (plain : Plain a) (plain' : Plain b) : Plain (a ++ b) := by
  rw [Plain, String.toList_append, List.all_append, Bool.and_eq_true]
  exact ⟨plain, plain'⟩

theorem Plain.intercalate {separator : String} (plain : Plain separator) {parts : List String}
    (all : ∀ part ∈ parts, Plain part)
    : Plain (separator.intercalate parts) := by
  match parts with
  | [] => rfl
  | [part] =>
      rw [String.intercalate_singleton]
      exact all part List.mem_cons_self
  | part :: next :: parts =>
      rw [String.intercalate_cons_cons]
      exact ((all part List.mem_cons_self).append plain).append
        (Plain.intercalate plain fun part inside => all part (List.mem_cons_of_mem _ inside))

theorem plain_newline (level : Nat) : Plain (newline level) := by
  rw [Plain, newline, String.toList_ofList, List.all_cons, List.all_replicate]
  split <;> rfl

theorem plain_block {level : Nat} {opening closing : String} {parts : List String}
    (plain : Plain opening) (plain' : Plain closing) (all : ∀ part ∈ parts, Plain part)
    : Plain (block level opening closing parts) := by
  have comma : Plain "," := rfl
  rw [block]
  split
  case isTrue => exact plain.append plain'
  case isFalse =>
    exact (((plain.append (plain_newline _)).append
      ((comma.append (plain_newline _)).intercalate all)).append (plain_newline _)).append plain'

-----------------------------------------------------------------------------------------
-- Strings and numbers
-----------------------------------------------------------------------------------------

theorem isPlain_digitChar : ∀ digit : Fin 16, isPlain (Nat.digitChar digit) = true := by
  decide

theorem isPlain_unitEscape (unit : Nat) : (unitEscape unit).all isPlain = true := by
  have digits : (Text.hexTail 4 unit).all isPlain = true := by
    rw [Text.hexTail, List.all_map, List.all_eq_true]
    exact fun place _ => isPlain_digitChar ⟨unit >>> (4 * place) % 16, Nat.mod_lt _ (by decide)⟩
  rw [unitEscape, List.all_cons, List.all_cons, digits]
  rfl

theorem isPlain_of_unescape? {c d : Char} (short : unescape? d = some c) : isPlain d = true := by
  unfold unescape? at short
  split at short
  case h_9 => cases short
  all_goals rfl

theorem isPlain_escapePoint (point : CodePoint) : (escapePoint point).all isPlain = true := by
  have way := escaped point
  generalize escapePoint point = chars at way ⊢
  cases way with
  | plain printable unquoted unescaped => simp [isPlain, printable]
  | letter short =>
      rw [List.all_cons, List.all_cons, isPlain_of_unescape? short]
      rfl
  | unit _ small => exact isPlain_unitEscape _
  | pair halves => rw [List.all_append, isPlain_unitEscape, isPlain_unitEscape, Bool.and_self]

theorem plain_renderString (text : Text) : Plain (renderString text) := by
  have inside : (text.points.flatMap escapePoint).all isPlain = true := by
    rw [List.all_flatMap, List.all_eq_true]
    exact fun point _ => isPlain_escapePoint point
  rw [Plain, renderString, String.toList_ofList, List.all_append, List.all_cons, inside]
  rfl

theorem isPlain_of_isDigit {c : Char} (digit : c.isDigit = true) : isPlain c = true := by
  simp only [Char.isDigit, Bool.and_eq_true, decide_eq_true_eq, ge_iff_le,
    UInt32.le_iff_toNat_le] at digit
  have range : 0x30 ≤ c.toNat ∧ c.toNat ≤ 0x39 := digit
  simp only [isPlain, Bool.or_eq_true, Bool.and_eq_true, decide_eq_true_eq]
  omega

theorem plain_toString (value : Int) : Plain (toString value) := by
  have digits (n : Nat) : Plain n.repr := by
    rw [Plain, Nat.toList_repr, List.all_eq_true]
    exact fun c inside =>
      isPlain_of_isDigit (Nat.isDigit_of_mem_toDigits (by decide) (by decide) inside)
  have sign : Plain "-" := rfl
  rw [Int.toString_eq_repr, Int.repr_eq_if]
  split
  case isTrue => exact digits _
  case isFalse => exact sign.append (digits _)

-----------------------------------------------------------------------------------------
-- Documents
-----------------------------------------------------------------------------------------

mutual

theorem plain_indented (value : Json) (exact : value.isExact = true) (level : Nat)
    : Plain (value.indented level) := by
  cases value with
  | null =>
      rw [indented]
      rfl
  | bool value => cases value <;> (rw [indented]; rfl)
  | number value =>
      cases value with
      | float value => cases exact
      | int value =>
          rw [indented]
          exact plain_toString value
  | string text =>
      rw [indented]
      exact plain_renderString text
  | array items =>
      rw [indented]
      rw [isExact] at exact
      exact plain_block rfl rfl (plain_indentedItems items exact (level + 1))
  | object members =>
      rw [indented]
      rw [isExact] at exact
      exact plain_block rfl rfl (plain_indentedMembers members exact (level + 1))
termination_by sizeOf value

theorem plain_indentedItems (items : List Json) (exact : areExact items = true) (level : Nat)
    : ∀ part ∈ indentedItems level items, Plain part := by
  cases items with
  | nil => exact fun _ inside => nomatch inside
  | cons item items =>
      obtain ⟨whole, exact'⟩ := Bool.and_eq_true_iff.mp exact
      rw [indentedItems, List.forall_mem_cons]
      exact ⟨plain_indented item whole level, plain_indentedItems items exact' level⟩
termination_by sizeOf items

theorem plain_indentedMembers (members : List (Text × Json)) (exact : haveExact members = true)
    (level : Nat)
    : ∀ part ∈ indentedMembers level members, Plain part := by
  cases members with
  | nil => exact fun _ inside => nomatch inside
  | cons member members =>
      cases member with
      | mk key value =>
          obtain ⟨whole, exact'⟩ := Bool.and_eq_true_iff.mp exact
          have colon : Plain ": " := rfl
          rw [indentedMembers, List.forall_mem_cons]
          exact ⟨((plain_renderString key).append colon).append (plain_indented value whole level),
            plain_indentedMembers members exact' level⟩
termination_by sizeOf members

end

end Handheld.Json
