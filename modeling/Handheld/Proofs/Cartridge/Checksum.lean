import Handheld.Proofs.Cartridge.Acceptance
import Mathlib.Algebra.BigOperators.Intervals

/-! What the checksum of a header notices.
It depends on the sum of the bytes that it covers and on nothing else, so a change of a single one of
them never goes unnoticed, and a change outside them never matters.
-/

namespace Handheld

/-- The places of the bytes that the checksum of a header covers. -/
def Cartridge.covered : Finset Nat := Finset.Ico 0x134 0x14D

/-- Two images differ in one byte that the checksum covers and agree in all others that it covers. -/
structure Cartridge.DifferOnceAt (place : Nat) (before after : Bytes) : Prop where
  inside : place ∈ covered
  differs : byteAt before place ≠ byteAt after place
  elsewhere : ∀ other ∈ covered, other ≠ place → byteAt before other = byteAt after other

-----------------------------------------------------------------------------------------
-- The value of a checksum
-----------------------------------------------------------------------------------------

theorem Byte.value_sub_one (sum byte : Byte)
    : (sum - byte - 1).value = (sum.value - byte.value - 1) % 256 := by
  simp only [Byte.value]
  bv_omega

/-- Every byte takes itself and one more away, whatever has wrapped around before. -/
theorem Byte.value_foldl_sub_one (bytes : List Byte) (start : Byte)
    : (bytes.foldl (fun sum byte => sum - byte - 1) start).value
      = (start.value - (bytes.map Byte.value).sum - bytes.length) % 256 := by
  induction bytes generalizing start with
  | nil => simp [Byte.value_emod]
  | cons byte rest ih =>
      rw [List.foldl_cons, ih, Byte.value_sub_one, List.map_cons, List.sum_cons, List.length_cons]
      omega

namespace Cartridge

variable {image before after : Bytes} {place : Nat}

/-- The bytes that the checksum covers, in an image that has all of them. -/
theorem extract_covered (room : 0x14D ≤ image.size)
    : (image.extract 0x134 0x14D).toList = (List.range' 0x134 25).map (byteAt image) := by
  refine List.ext_getElem ?_ fun index inside _ => ?_
  · rw [Array.length_toList, Array.size_extract, List.length_map, List.length_range']
    omega
  · rw [Array.length_toList, Array.size_extract] at inside
    rw [Array.getElem_toList, Array.getElem_extract, List.getElem_map, List.getElem_range', byteAt,
      Nat.one_mul, Array.getElem?_eq_getElem (by omega), Option.getD_some]

/-- The checksum is what remains when the covered bytes are taken away from -25. -/
theorem value_checksumOf (room : 0x14D ≤ image.size)
    : (checksumOf image).value
      = (-25 - ∑ place ∈ covered, (byteAt image place).value) % 256 := by
  have sum : ∑ place ∈ covered, (byteAt image place).value
      = ((List.range' 0x134 25).map (Byte.value ∘ byteAt image)).sum :=
    rfl
  rw [checksumOf, ← Array.foldl_toList, extract_covered room, Byte.value_foldl_sub_one,
    List.map_map, List.length_map, List.length_range', sum]
  have zero : (0 : Byte).value = 0 := rfl
  generalize ((List.range' 0x134 25).map (Byte.value ∘ byteAt image)).sum = sum
  omega

/-- A change of one covered byte changes the sum by less than 256 and more than nothing. -/
theorem DifferOnceAt.checksumOf_ne (differ : DifferOnceAt place before after)
    (room : 0x14D ≤ before.size) (room' : 0x14D ≤ after.size)
    : checksumOf before ≠ checksumOf after := by
  intro same
  have values := congrArg Byte.value same
  have rest : ∑ other ∈ covered.erase place, (byteAt before other).value
      = ∑ other ∈ covered.erase place, (byteAt after other).value :=
    Finset.sum_congr rfl fun other inside =>
      congrArg Byte.value (differ.elsewhere other (Finset.mem_of_mem_erase inside)
        (Finset.ne_of_mem_erase inside))
  rw [value_checksumOf room, value_checksumOf room', ← Finset.add_sum_erase _ _ differ.inside,
    ← Finset.add_sum_erase _ _ differ.inside, rest] at values
  obtain ⟨low, high⟩ := Byte.isByte_value (byteAt before place)
  obtain ⟨low', high'⟩ := Byte.isByte_value (byteAt after place)
  have equal : (byteAt before place).value = (byteAt after place).value := by omega
  exact differ.differs (Byte.value_injective equal)

-----------------------------------------------------------------------------------------
-- The verdict of a header
-----------------------------------------------------------------------------------------

/-- A header that is accepted says of its checksum whether it is right. -/
theorem Header.parse_checksum {header : Header} (parsed : parse image = .ok header)
    : 0x150 ≤ image.size
        ∧ header.checksumValid = decide (checksumOf image = byteAt image 0x14D) := by
  obtain ⟨room, _, _, _, _, _, _, rfl⟩ := exists_of_parse parsed
  exact ⟨room, by dsimp only⟩

/-- With the same stored checksum, a change of one covered byte makes a right checksum wrong. -/
theorem DifferOnceAt.invalid {header changed : Header} (differ : DifferOnceAt place before after)
    (stored : byteAt before 0x14D = byteAt after 0x14D)
    (parsed : Header.parse before = .ok header) (valid : header.checksumValid = true)
    (parsed' : Header.parse after = .ok changed)
    : changed.checksumValid = false := by
  obtain ⟨room, verdict⟩ := Header.parse_checksum parsed
  obtain ⟨room', verdict'⟩ := Header.parse_checksum parsed'
  have right : checksumOf before = byteAt before 0x14D := of_decide_eq_true (verdict ▸ valid)
  have wrong : checksumOf after ≠ byteAt after 0x14D := fun same =>
    differ.checksumOf_ne (by omega) (by omega) (right.trans (stored.trans same.symm))
  rw [verdict', decide_eq_false wrong]

/-- Images that agree in the covered bytes and in the stored checksum get the same verdict. -/
theorem Header.checksumValid_congr {header changed : Header}
    (agree : ∀ place, 0x134 ≤ place → place ≤ 0x14D → byteAt before place = byteAt after place)
    (parsed : parse before = .ok header) (parsed' : parse after = .ok changed)
    : changed.checksumValid = header.checksumValid := by
  obtain ⟨room, verdict⟩ := parse_checksum parsed
  obtain ⟨room', verdict'⟩ := parse_checksum parsed'
  have sums : ∑ place ∈ covered, (byteAt before place).value
      = ∑ place ∈ covered, (byteAt after place).value :=
    Finset.sum_congr rfl fun place inside => by
      obtain ⟨low, high⟩ := Finset.mem_Ico.mp inside
      rw [agree place low high.le]
  have same : checksumOf before = checksumOf after :=
    Byte.value_injective (by
      rw [value_checksumOf (by omega), value_checksumOf (by omega), sums])
  rw [verdict, verdict', same, agree 0x14D (by decide) (by decide)]

/-- The checksum is -25 less the sum of the 25 bytes that it covers. A change of one of them changes
it, so that a header which was right about it is wrong afterwards or is refused; a change of bytes
that neither are covered nor hold the stored checksum leaves the verdict as it was.
-/
theorem checksum_detects
    : (∀ image : Bytes, 0x14D ≤ image.size →
        (checksumOf image).value
          = (-25 - ∑ place ∈ covered, (byteAt image place).value) % 256)
      ∧ (∀ (place : Nat) (before after : Bytes), 0x14D ≤ before.size → 0x14D ≤ after.size →
          DifferOnceAt place before after → checksumOf before ≠ checksumOf after)
      ∧ (∀ (place : Nat) (before after : Bytes) (header : Header),
          DifferOnceAt place before after → byteAt before 0x14D = byteAt after 0x14D →
          Header.parse before = .ok header → header.checksumValid = true →
          (∃ refusal, Header.parse after = .error refusal)
          ∨ ∃ changed, Header.parse after = .ok changed ∧ changed.checksumValid = false)
      ∧ ∀ (before after : Bytes) (header changed : Header),
          (∀ place, 0x134 ≤ place → place ≤ 0x14D → byteAt before place = byteAt after place) →
          Header.parse before = .ok header → Header.parse after = .ok changed →
          changed.checksumValid = header.checksumValid := by
  refine ⟨fun image room => value_checksumOf room,
    fun place before after room room' differ => differ.checksumOf_ne room room', ?_,
    fun before after header changed agree parsed parsed' =>
      Header.checksumValid_congr agree parsed parsed'⟩
  intro place before after header differ stored parsed valid
  cases parsed' : Header.parse after with
  | error refusal => exact .inl ⟨refusal, rfl⟩
  | ok changed => exact .inr ⟨changed, rfl, differ.invalid stored parsed valid parsed'⟩

/-- An image with room for nothing but a header, which says that its checksum is the one of zeros. -/
def scantImage (byte : Byte) : Bytes :=
  Array.ofFn fun place : Fin 0x150 =>
    if place.val = 0x14D then 0xE7 else if place.val = 0x140 then byte else 0

/-- One byte of the title is enough to make the checksum of zeros wrong. -/
theorem checksum_detects_title
    : ∃ header changed,
        Header.parse (scantImage 0) = .ok header ∧ header.checksumValid = true
        ∧ DifferOnceAt 0x140 (scantImage 0) (scantImage 0x80)
        ∧ Header.parse (scantImage 0x80) = .ok changed ∧ changed.checksumValid = false := by
  have byte (value : Byte) {place : Nat} (inside : place < 0x150) : byteAt (scantImage value) place
      = if place = 0x14D then 0xE7 else if place = 0x140 then value else 0 := by
    rw [byteAt, scantImage, Array.getElem?_ofFn, dif_pos inside, Option.getD_some]
  have parsed (value : Byte) : ∃ header, Header.parse (scantImage value) = .ok header := by
    have room : (scantImage value).size = 0x150 := Array.size_ofFn
    rw [Header.parse, byte value (by decide), byte value (by decide), byte value (by decide),
      if_neg (by rw [room]; decide)]
    exact ⟨_, rfl⟩
  obtain ⟨header, accepted⟩ := parsed 0
  obtain ⟨changed, accepted'⟩ := parsed 0x80
  have valid : header.checksumValid = true := by
    have zeros : ∑ place ∈ covered, (byteAt (scantImage 0) place).value = 0 :=
      Finset.sum_eq_zero fun place inside => by
        obtain ⟨low, high⟩ := Finset.mem_Ico.mp inside
        rw [byte 0 (by omega), if_neg (by omega), ite_self]
        rfl
    have room : 0x14D ≤ (scantImage 0).size := by
      rw [scantImage, Array.size_ofFn]
      decide
    have sum := checksum_detects.1 (scantImage 0) room
    rw [zeros] at sum
    rw [(Header.parse_checksum accepted).2, byte 0 (by decide)]
    exact decide_eq_true (Byte.value_injective sum)
  have differ : DifferOnceAt 0x140 (scantImage 0) (scantImage 0x80) := by
    refine ⟨by decide, ?_, fun other inside apart => ?_⟩
    · rw [byte 0 (by decide), byte 0x80 (by decide)]
      decide
    · obtain ⟨low, high⟩ := Finset.mem_Ico.mp inside
      rw [byte 0 (by omega), byte 0x80 (by omega), if_neg apart, if_neg apart]
  have stored : byteAt (scantImage 0) 0x14D = byteAt (scantImage 0x80) 0x14D := by
    rw [byte 0 (by decide), byte 0x80 (by decide)]
    rfl
  refine ⟨header, changed, accepted, valid, differ, accepted', ?_⟩
  rcases checksum_detects.2.2.1 0x140 _ _ header differ stored accepted valid with
    ⟨refusal, refused⟩ | ⟨other, parsed', invalid⟩
  · cases accepted'.symm.trans refused
  · obtain rfl := Except.ok.inj (accepted'.symm.trans parsed')
    exact invalid

end Cartridge

end Handheld
