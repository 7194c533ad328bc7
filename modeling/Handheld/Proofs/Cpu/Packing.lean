import Handheld.Cpu.Packed
import Handheld.Proofs.Cpu.Numeral
import Handheld.Proofs.Cpu.Range

/-! Registers as bytes and back.
Packing writes each number with its own count of bytes, the lowest first, and reading takes as many
bytes off the front for each number. So the bytes determine the numbers, the numbers determine the
bytes, and a number that does not fit stops the packing.
-/

namespace Handheld.Cpu.Snapshot

/-- So many bytes can hold a number. -/
def Holds (width : Nat) (value : Int) : Prop :=
  0 ≤ value ∧ value < (256 ^ width : Nat)

/-- The numbers of given widths that stand one after another in bytes. -/
def numbersOf : List Nat → List Byte → List Int
  | [], _ => []
  | width :: widths, bytes =>
      (Numeral.binary.value (bytes.take width) : Int) :: numbersOf widths (bytes.drop width)

/-- The bytes of numbers that are packed one after another, each in its width. -/
def packAll : List (Nat × Int) → Except Error (List Byte)
  | [] => .ok []
  | (width, value) :: rest => do
    let part ← packNumber width value
    return part ++ (← packAll rest)

/-- The registers of a snapshot without their names. -/
def values (snapshot : Snapshot) : List Int :=
  snapshot.registerFields.map Prod.snd

/-- The registers of a snapshot fit their widths. -/
structure Fits (snapshot : Snapshot) : Prop where
  pc : IsWord snapshot.pc
  sp : IsWord snapshot.sp
  a : IsByte snapshot.a
  f : IsByte snapshot.f
  b : IsByte snapshot.b
  c : IsByte snapshot.c
  d : IsByte snapshot.d
  e : IsByte snapshot.e
  h : IsByte snapshot.h
  l : IsByte snapshot.l

-----------------------------------------------------------------------------------------
-- One number
-----------------------------------------------------------------------------------------

variable {width : Nat} {value : Int} {bytes : List Byte}

instance : Decidable (Holds width value) :=
  inferInstanceAs (Decidable (_ ∧ _))

theorem packNumber_eq (width : Nat) (value : Int)
    : packNumber width value
        = if Holds width value then
            .ok ((List.range width).map fun (place : Nat) =>
              Byte.ofInt (value >>> (8 * place : Nat)))
          else .error .registerWidth := by
  have limit : Bits.single (8 * width) = (256 ^ width : Nat) := by
    rw [Bits.single, Nat.one_shiftLeft, Nat.pow_mul]
  rw [packNumber, limit]
  rfl

/-- What is packed for a number are its digits to the base 256, by induction on their count. -/
theorem writes_shifted {number : Nat} (fits : number < 256 ^ width)
    : Numeral.binary.Writes number width
        ((List.range width).map fun (place : Nat) =>
          Byte.ofInt ((number : Int) >>> (8 * place : Nat))) := by
  refine ⟨by simp, Numeral.valid_binary _, ?_⟩
  induction width generalizing number with
  | zero => exact (Nat.lt_one_iff.mp fits).symm
  | succ width ih =>
      have rest : number / 256 < 256 ^ width := Nat.div_lt_of_lt_mul (by rwa [← Nat.pow_succ'])
      have digits := ih rest
      have shifted : ∀ place : Nat, (number : Int) >>> (8 * (place + 1) : Nat)
          = ((number / 256 : Nat) : Int) >>> (8 * place : Nat) := fun place => by
        have moved : number >>> (8 * place + 8) = (number / 256) >>> (8 * place) := by
          rw [Nat.add_comm, Nat.shiftRight_add, Nat.shiftRight_eq_div_pow number]
        exact congrArg Int.ofNat moved
      have lowest : (Byte.ofInt ((number : Int) >>> (0 : Nat))).toNat = number % 256 := by
        have low := Byte.toNat_ofInt ((number : Int) >>> (0 : Nat))
        rw [Int.shiftRight_zero] at low ⊢
        omega
      rw [Numeral.value] at digits ⊢
      rw [List.range_succ_eq_map, List.map_cons, List.map_map, List.map_cons, Nat.ofDigits_cons]
      simp only [Function.comp_def, Nat.succ_eq_add_one, shifted]
      rw [digits]
      change (Byte.ofInt ((number : Int) >>> (0 : Nat))).toNat + 256 * (number / 256) = number
      rw [lowest, Nat.mod_add_div]

/-- A number is packed into the one string of bytes that writes it. -/
theorem packNumber_eq_ok_iff
    : packNumber width value = .ok bytes
        ↔ bytes.length = width ∧ (Numeral.binary.value bytes : Int) = value := by
  rw [packNumber_eq]
  constructor
  · intro packed
    split at packed
    case isFalse => cases packed
    case isTrue fits =>
    obtain ⟨number, rfl⟩ := Int.eq_ofNat_of_zero_le fits.1
    obtain rfl := Except.ok.inj packed
    have writes := writes_shifted (Int.ofNat_lt.mp fits.2)
    exact ⟨writes.length, congrArg Int.ofNat writes.value⟩
  · rintro ⟨rfl, rfl⟩
    have fits := Numeral.value_lt (Numeral.valid_binary bytes)
    have holds : Holds bytes.length (Numeral.binary.value bytes) :=
      ⟨Int.natCast_nonneg _, Int.ofNat_lt.mpr fits⟩
    rw [if_pos holds]
    exact congrArg _ ((writes_shifted fits).unique ⟨rfl, Numeral.valid_binary _, rfl⟩)

-----------------------------------------------------------------------------------------
-- Numbers one after another
-----------------------------------------------------------------------------------------

variable {widths : List Nat} {values : List Int} {rest : List (Nat × Int)}

theorem packAll_cons_eq_ok_iff
    : packAll ((width, value) :: rest) = .ok bytes
        ↔ ∃ part others, packNumber width value = .ok part ∧ packAll rest = .ok others
          ∧ part ++ others = bytes := by
  rw [packAll]
  cases packNumber width value with
  | error error => simp [bind, Except.bind]
  | ok part =>
      cases packAll rest with
      | error error => simp [bind, Except.bind]
      | ok others => simp [bind, Except.bind, pure, Except.pure]

/-- Numbers of some widths are packed into just the bytes that they can be read off again, by
induction on the widths.
-/
theorem packAll_eq_ok_iff (paired : widths.length = values.length)
    : packAll (widths.zip values) = .ok bytes
        ↔ bytes.length = widths.sum ∧ numbersOf widths bytes = values := by
  induction widths generalizing values bytes with
  | nil =>
      obtain rfl : values = [] := List.length_eq_zero_iff.mp paired.symm
      simp [numbersOf, packAll, @eq_comm _ [] bytes]
  | cons width widths ih =>
      obtain ⟨value, values, rfl⟩ := List.exists_cons_of_length_eq_add_one paired.symm
      have others : widths.length = values.length := Nat.succ.inj paired
      simp only [List.zip_cons_cons, packAll_cons_eq_ok_iff, packNumber_eq_ok_iff, ih others,
        numbersOf, List.sum_cons, List.cons.injEq]
      constructor
      · rintro ⟨part, tail, ⟨rfl, rfl⟩, ⟨length, read⟩, rfl⟩
        rw [List.length_append, length, List.take_left, List.drop_left]
        exact ⟨rfl, rfl, read⟩
      · rintro ⟨length, first, read⟩
        refine ⟨bytes.take width, bytes.drop width, ⟨?_, first⟩, ⟨?_, read⟩,
          List.take_append_drop _ _⟩
        · rw [List.length_take]
          omega
        · rw [List.length_drop]
          omega

/-- Numbers are packed if all of them fit, and for no other reason are they refused. -/
theorem packAll_judged (fields : List (Nat × Int))
    : (∃ bytes, packAll fields = .ok bytes ∧ ∀ field ∈ fields, Holds field.1 field.2)
        ∨ packAll fields = .error .registerWidth ∧ ∃ field ∈ fields, ¬ Holds field.1 field.2 := by
  induction fields with
  | nil => exact .inl ⟨[], rfl, by simp⟩
  | cons first rest ih =>
      obtain ⟨width, value⟩ := first
      by_cases holds : Holds width value
      case neg =>
        refine .inr ⟨?_, (width, value), by simp, holds⟩
        rw [packAll, packNumber_eq, if_neg holds]
        rfl
      case pos =>
        rcases ih with ⟨bytes, packed, fits⟩ | ⟨refused, field, inside, overflows⟩
        · have written := (packNumber_eq width value).trans (if_pos holds)
          exact .inl ⟨_, packAll_cons_eq_ok_iff.mpr ⟨_, bytes, written, packed, rfl⟩,
            List.forall_mem_cons.mpr ⟨holds, fits⟩⟩
        · refine .inr ⟨?_, field, List.mem_cons_of_mem _ inside, overflows⟩
          rw [packAll, packNumber_eq, if_pos holds, refused]
          rfl

-----------------------------------------------------------------------------------------
-- The registers
-----------------------------------------------------------------------------------------

variable {snapshot back : Snapshot} {blob : Bytes}

theorem map_flatten_packNumber (fields : List (Nat × String × Int))
    : (fields.mapM fun field => packNumber field.1 field.2.2).map List.flatten
        = packAll (fields.map fun field => (field.1, field.2.2)) := by
  induction fields with
  | nil => rfl
  | cons first rest ih =>
      rw [List.mapM_cons, List.map_cons, packAll, ← ih]
      cases packNumber first.1 first.2.2 with
      | error error => rfl
      | ok part => cases rest.mapM fun field => packNumber field.1 field.2.2 <;> rfl

theorem pack_eq (snapshot : Snapshot)
    : snapshot.pack = (packAll (Snapshot.widths.zip snapshot.values)).map List.toArray := by
  have flat := map_flatten_packNumber (Snapshot.widths.zip snapshot.registerFields)
  change _ = packAll (Snapshot.widths.zip snapshot.values) at flat
  rw [← flat, pack]
  cases (Snapshot.widths.zip snapshot.registerFields).mapM
    fun field => packNumber field.1 field.2.2 <;> rfl

theorem fits_iff
    : snapshot.Fits ↔ ∀ field ∈ Snapshot.widths.zip snapshot.values, Holds field.1 field.2 := by
  simp only [Snapshot.widths, values, registerFields, List.map_cons, List.map_nil,
    List.zip_cons_cons, List.zip_nil_right, List.forall_mem_cons]
  constructor
  · intro fits
    exact ⟨fits.pc, fits.sp, fits.a, fits.f, fits.b, fits.c, fits.d, fits.e, fits.h, fits.l,
      by simp⟩
  · rintro ⟨pc, sp, a, f, b, c, d, e, h, l, -⟩
    exact ⟨pc, sp, a, f, b, c, d, e, h, l⟩

/-- What is read off twelve bytes are the numbers that stand in them one after another. -/
theorem unpack_judged (blob : Bytes)
    : (∃ back, unpack blob = .ok back ∧ blob.size = 12
          ∧ back.values = numbersOf Snapshot.widths blob.toList ∧ back.flagwise = false)
        ∨ blob.size ≠ 12
          ∧ unpack blob = .error (.bundle (.registersLength 12 blob.size)) := by
  by_cases size : blob.size = 12
  case neg => exact .inr ⟨size, if_neg size⟩
  case pos =>
    refine .inl ⟨_, if_pos size, size, ?_, rfl⟩
    obtain ⟨bytes⟩ := blob
    match bytes, size with
    | [_, _, _, _, _, _, _, _, _, _, _, _], _ =>
        simp [values, registerFields, Snapshot.widths, numbersOf, Numeral.value, Numeral.binary,
          Nat.ofDigits_cons, Cartridge.byteAt, Byte.value]

/-- A snapshot is packed into the twelve bytes in which its registers stand one after another. -/
theorem pack_eq_ok_iff
    : snapshot.pack = .ok blob
        ↔ blob.size = 12 ∧ numbersOf Snapshot.widths blob.toList = snapshot.values := by
  have paired : Snapshot.widths.length = snapshot.values.length := rfl
  rw [← Array.length_toList, ← show Snapshot.widths.sum = 12 from rfl, ← packAll_eq_ok_iff paired,
    pack_eq]
  cases packAll (Snapshot.widths.zip snapshot.values) with
  | error error => simp [Except.map]
  | ok bytes => simp [Except.map, ← Array.toList_inj]

theorem pack_judged (snapshot : Snapshot)
    : (∃ blob, snapshot.pack = .ok blob ∧ snapshot.Fits)
        ∨ snapshot.pack = .error .registerWidth ∧ ¬ snapshot.Fits := by
  rw [pack_eq, fits_iff]
  rcases packAll_judged (Snapshot.widths.zip snapshot.values) with
    ⟨bytes, packed, fits⟩ | ⟨refused, field, inside, overflows⟩
  · rw [packed]
    exact .inl ⟨_, rfl, fits⟩
  · rw [refused]
    exact .inr ⟨rfl, fun fits => overflows (fits field inside)⟩

/-- Snapshots with the same numbers in their registers have the same registers. -/
theorem registerFields_eq (same : back.values = snapshot.values)
    : back.registerFields = snapshot.registerFields := by
  simp only [values, registerFields, List.map_cons, List.map_nil, List.cons.injEq] at same
  obtain ⟨pc, sp, a, f, b, c, d, e, h, l, -⟩ := same
  rw [registerFields, registerFields, pc, sp, a, f, b, c, d, e, h, l]

/-- Registers that fit are packed and read again. How the flags were set is forgotten on the way. -/
theorem exists_unpack (fits : snapshot.Fits)
    : ∃ blob back, snapshot.pack = .ok blob ∧ unpack blob = .ok back
        ∧ back.registerFields = snapshot.registerFields ∧ back.flagwise = false := by
  rcases pack_judged snapshot with ⟨blob, packed, _⟩ | ⟨_, overflows⟩
  case inr => exact absurd fits overflows
  obtain ⟨size, numbers⟩ := pack_eq_ok_iff.mp packed
  rcases unpack_judged blob with ⟨back, unpacked, _, read, flagwise⟩ | ⟨other, _⟩
  case inr => exact absurd size other
  exact ⟨blob, back, packed, unpacked, registerFields_eq (read.trans numbers), flagwise⟩

/-- Registers that fit are packed, and reading the bytes gives all of them back. Bytes can be read if
and only if there are twelve, and what was read is packed into the same bytes. A register that does
not fit is refused.
-/
theorem packing_exact
    : (∀ snapshot : Snapshot, snapshot.Fits →
          ∃ blob back, snapshot.pack = .ok blob ∧ unpack blob = .ok back
            ∧ back.registerFields = snapshot.registerFields)
      ∧ (∀ blob : Bytes, (∃ back, unpack blob = .ok back) ↔ blob.size = 12)
      ∧ (∀ (blob : Bytes) (back : Snapshot), unpack blob = .ok back → back.pack = .ok blob)
      ∧ ∀ snapshot : Snapshot, ¬ snapshot.Fits → snapshot.pack = .error .registerWidth := by
  refine ⟨fun snapshot fits => ?_, fun blob => ?_, fun blob back unpacked => ?_,
    fun snapshot overflows => ?_⟩
  · obtain ⟨blob, back, packed, unpacked, same, _⟩ := exists_unpack fits
    exact ⟨blob, back, packed, unpacked, same⟩
  · rcases unpack_judged blob with ⟨back, unpacked, size, _⟩ | ⟨other, refused⟩
    · exact ⟨fun _ => size, fun _ => ⟨back, unpacked⟩⟩
    · refine ⟨fun ⟨back, unpacked⟩ => ?_, fun size => absurd size other⟩
      cases refused.symm.trans unpacked
  · rcases unpack_judged blob with ⟨other, unpacked', size, read, _⟩ | ⟨_, refused⟩
    · obtain rfl := Except.ok.inj (unpacked.symm.trans unpacked')
      exact pack_eq_ok_iff.mpr ⟨size, read.symm⟩
    · cases refused.symm.trans unpacked
  · rcases pack_judged snapshot with ⟨_, _, fits⟩ | ⟨refused, _⟩
    · exact absurd fits overflows
    · exact refused

/-- The low bytes of the two counters come first. A counter beyond the last address is refused, and so
is a register below zero.
-/
theorem packing_exact_low_first
    : (∃ back, unpack #[0x34, 0x12, 0xFE, 0xFF, 0x80, 0x0F, 0, 0, 0, 0, 0, 0xFF] = .ok back
          ∧ back.registerFields
            = registerFields { pc := 0x1234, sp := 0xFFFE, a := 0x80, f := 0x0F, l := 0xFF })
        ∧ pack { pc := 0x10000 } = .error .registerWidth
        ∧ pack { pc := 0, l := -1 } = .error .registerWidth := by
  have fits : Fits { pc := 0x1234, sp := 0xFFFE, a := 0x80, f := 0x0F, l := 0xFF } := by
    constructor <;> constructor <;> decide
  obtain ⟨blob, back, packed, unpacked, same⟩ := packing_exact.1 _ fits
  have bytes : pack { pc := 0x1234, sp := 0xFFFE, a := 0x80, f := 0x0F, l := 0xFF }
      = .ok #[0x34, 0x12, 0xFE, 0xFF, 0x80, 0x0F, 0, 0, 0, 0, 0, 0xFF] := by
    rfl
  obtain rfl := Except.ok.inj (bytes.symm.trans packed)
  refine ⟨⟨back, unpacked, same⟩, packing_exact.2.2.2 _ fun fits => ?_,
    packing_exact.2.2.2 _ fun fits => ?_⟩
  · exact absurd fits.pc.2 (by decide)
  · exact absurd fits.l.1 (by decide)

end Handheld.Cpu.Snapshot
