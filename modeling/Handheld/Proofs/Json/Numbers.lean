import Handheld.Json.Parser
import Handheld.Json.Printer

/-! Whole numbers in documents.
Their digits are read as the number that they were written for, however many there are, as long as
the reader puts up with so many.
-/

namespace Handheld.Json

-----------------------------------------------------------------------------------------
-- Digits of numbers
-----------------------------------------------------------------------------------------

theorem natOf_toDigits (n : Nat) : natOf (Nat.toDigits 10 n) = n :=
  (Nat.ofDigitChars_eq_foldl.symm).trans Nat.ofDigitChars_ten_toDigits

theorem digitChar_eq_zero : ∀ digit : Fin 10, Nat.digitChar digit = '0' → digit = 0 := by
  decide

/-- Only zero is written with a leading zero. -/
theorem eq_zero_of_head?_toDigits {n : Nat} (zero : (Nat.toDigits 10 n).head? = some '0')
    : n = 0 := by
  induction n using Nat.strongRecOn with
  | ind n ih =>
      rw [Nat.toDigits_eq_if (by decide)] at zero
      split at zero
      case isTrue small =>
        exact Fin.mk.inj (digitChar_eq_zero ⟨n, small⟩ (Option.some.inj zero))
      case isFalse large =>
        rw [List.head?_append, List.head?_eq_some_head Nat.toDigits_ne_nil, Option.some_or,
          ← List.head?_eq_some_head] at zero
        have none := ih (n / 10) (by omega) zero
        omega

theorem ne_of_isDigit {c d : Char} (digit : c.isDigit = true) (other : d.isDigit = false)
    : c ≠ d := by
  rintro rfl
  rw [digit] at other
  cases other

/-- The digits of a number begin with one. -/
theorem exists_digit (n : Nat)
    : ∃ c digits, Nat.toDigits 10 n = c :: digits ∧ c.isDigit = true := by
  obtain ⟨c, digits, spelled⟩ := List.exists_cons_of_ne_nil (Nat.toDigits_ne_nil (n := n) (b := 10))
  have digit : c ∈ Nat.toDigits 10 n := spelled ▸ List.mem_cons_self
  exact ⟨c, digits, spelled, Nat.isDigit_of_mem_toDigits (by decide) (by decide) digit⟩

-----------------------------------------------------------------------------------------
-- Where a number ends
-----------------------------------------------------------------------------------------

/-- A text that cannot carry a number on: it is empty, or goes on with a separator or a line. -/
def Ends (text : List CodePoint) : Prop :=
  ∀ point ∈ text.head?, point = .char ',' ∨ point = .char '\n'

theorem ends_nil : Ends [] := fun _ first => nomatch first

theorem ends_comma (text : List CodePoint) : Ends (.char ',' :: text) :=
  fun _ first => .inl (Option.some.inj first).symm

variable {rest : List CodePoint}

theorem Ends.cases (ends : Ends rest)
    : rest = [] ∨ ∃ more, rest = .char ',' :: more ∨ rest = .char '\n' :: more := by
  cases rest with
  | nil => exact .inl rfl
  | cons point more =>
      refine .inr ⟨more, ?_⟩
      rcases ends point rfl with rfl | rfl
      · exact .inl rfl
      · exact .inr rfl

theorem takeDigits_of_ends {digits : List Char} (all : ∀ c ∈ digits, c.isDigit = true)
    (ends : Ends rest)
    : takeDigits (digits.map .char ++ rest) = (digits, rest) := by
  have stop : takeDigits rest = ([], rest) := by
    rcases ends.cases with rfl | ⟨more, rfl | rfl⟩ <;> rfl
  simp only [takeDigits, Prod.mk.injEq] at stop ⊢
  have passed : ∀ point ∈ digits.map CodePoint.char, point.char?.any Char.isDigit = true := by
    simpa [CodePoint.char?] using all
  have chars : (digits.map CodePoint.char).filterMap CodePoint.char? = digits := by
    rw [List.filterMap_map]
    exact List.filterMap_some
  rw [List.takeWhile_append_of_pos passed, List.dropWhile_append_of_pos passed,
    List.filterMap_append, chars, stop.1, List.append_nil]
  exact ⟨rfl, stop.2⟩

theorem readFraction_of_ends (ends : Ends rest) : readFraction rest = ([], rest) := by
  rcases ends.cases with rfl | ⟨more, rfl | rfl⟩ <;> rfl

theorem readExponent_of_ends (ends : Ends rest) : readExponent rest = (none, rest) := by
  rcases ends.cases with rfl | ⟨more, rfl | rfl⟩ <;> rfl

/-- A number is read as it was written, unless it is too long for the reader. -/
theorem readNumber_toDigits (limits : Limits) (negative : Bool) (n : Nat) (ends : Ends rest)
    : readNumber limits negative ((Nat.toDigits 10 n).map .char ++ rest)
        = if limits.digits.any (· < (Nat.toDigits 10 n).length) then .error .longNumber
          else .ok (.int (if negative then -n else n), rest) := by
  have digits : ∀ c ∈ Nat.toDigits 10 n, c.isDigit = true :=
    fun c digit => Nat.isDigit_of_mem_toDigits (by decide) (by decide) digit
  -- Zero itself is the one number whose digits are cut off behind a leading zero.
  have whole : (if (Nat.toDigits 10 n).head? = some '0' then ['0'] else Nat.toDigits 10 n)
      = Nat.toDigits 10 n := by
    split
    case isTrue zero => rw [eq_zero_of_head?_toDigits zero]; rfl
    case isFalse => rfl
  have filled : (Nat.toDigits 10 n).isEmpty = false :=
    List.isEmpty_eq_false_iff.mpr Nat.toDigits_ne_nil
  have dropped : ((Nat.toDigits 10 n).map CodePoint.char ++ rest).drop (Nat.toDigits 10 n).length
      = rest := by
    rw [← List.length_map CodePoint.char, List.drop_left]
  simp only [readNumber, takeDigits_of_ends digits ends, whole, filled, dropped,
    readFraction_of_ends ends, readExponent_of_ends ends, natOf_toDigits]
  rfl

end Handheld.Json
