import Handheld.Json.Parser
import Handheld.Text.Hex
import Handheld.Text.Quoted

/-! Hexadecimal digits are read as they were written.
That holds of bytes, which have two digits each, and of code units, which have four.
-/

namespace Handheld

namespace Text

theorem hexValue?_digitChar
    : ∀ digit : Fin 16, isSeparator (Nat.digitChar digit) = false
        ∧ hexValue? (Nat.digitChar digit) = some digit.val := by
  decide

theorem bytesOfHexChars?_hexByte (byte : Byte) (rest : List Char)
    : bytesOfHexChars? (hexByte byte ++ rest) = (bytesOfHexChars? rest).map (byte :: ·) := by
  have bound := byte.isLt
  have high := hexValue?_digitChar ⟨byte.toNat / 16, by omega⟩
  have low := hexValue?_digitChar ⟨byte.toNat % 16, by omega⟩
  have joined : BitVec.ofNat 8 (byte.toNat / 16 * 16 + byte.toNat % 16) = byte := by
    rw [Nat.div_add_mod', BitVec.ofNat_toNat, BitVec.setWidth_eq]
  dsimp only at high low
  rw [hexByte, List.cons_append, List.cons_append, List.nil_append, bytesOfHexChars?]
  simp only [high.1, high.2, low.2]
  cases bytesOfHexChars? rest with
  | none => rfl
  | some bytes => exact congrArg (fun byte => some (byte :: bytes)) joined

/-- Bytes that are spelled out are read back. -/
theorem bytesOfHex?_hexOfBytes (bytes : List Byte)
    : bytesOfHex? (hexOfBytes bytes) = some bytes := by
  have read : bytesOfHexChars? (bytes.flatMap hexByte) = some bytes := by
    induction bytes with
    | nil => rfl
    | cons byte rest hypothesis =>
        rw [List.flatMap_cons, bytesOfHexChars?_hexByte, hypothesis]
        rfl
  have chars : (ofString (hexOfBytes bytes)).chars? = some (bytes.flatMap hexByte) := by
    rw [ofString, hexOfBytes, String.toList_ofList, chars?_ofChars]
  rw [bytesOfHex?, chars]
  exact read

end Text

namespace Json

theorem readHexDigit_digitChar (n : Nat)
    : readHexDigit (.char (Nat.digitChar (n % 16))) = some (n % 16) :=
  (Text.hexValue?_digitChar ⟨n % 16, Nat.mod_lt _ (by decide)⟩).2

/-- The four digits of a code unit are read as the code unit. -/
theorem exists_hexTail {unit : Nat} (small : unit < 0x10000)
    : ∃ a b c d, (Text.hexTail 4 unit).map CodePoint.char = [a, b, c, d]
        ∧ readHex4 a b c d = .ok unit := by
  refine ⟨_, _, _, _, rfl, ?_⟩
  simp only [readHex4, readHexDigit_digitChar, Nat.shiftRight_eq_div_pow]
  congr 1
  omega

end Json

end Handheld
