import Handheld.Proofs.Console.Genuine

/-! Which bytes of its image a cartridge shows.
A circuit takes the banks from what was last written to each of its control windows. Whatever that
was, every address of the program area shows a byte of the image.
-/

namespace Handheld.Cartridge

/-- What can happen to a cartridge. -/
inductive Act
  | write (address : Address) (value : Int)
  | restoreRam (bytes : Bytes)
  | reset

/-- What has happened to a cartridge, the latest act first. -/
abbrev History := List Act

/-- What an act leaves behind. Bytes that do not fit are refused, and nothing happens. -/
def perform (act : Act) (k : Cartridge) : Cartridge :=
  match act with
  | .write address value => k.write address.val value
  | .restoreRam bytes =>
    match k.restoreRam bytes with
    | .ok restored => restored
    | .error _ => k
  | .reset => k.reset

-----------------------------------------------------------------------------------------
-- What a history selects
-----------------------------------------------------------------------------------------

namespace History

/-- Where a history leads. -/
def replay (history : History) (k : Cartridge) : Cartridge :=
  history.foldr perform k

/-- The byte that was written to a window last, unless there was a reset since. -/
def latest? (window : Nat → Bool) : History → Option Nat
  | [] | .reset :: _ => none
  | .restoreRam _ :: earlier => latest? window earlier
  | .write address value :: earlier =>
    if window address then some (Byte.ofInt value).toNat else latest? window earlier

/-- The window between two addresses. -/
def between (first last : Nat) (address : Nat) : Bool :=
  first ≤ address ∧ address ≤ last

/-- The bits of a window that a mask leaves, where zero counts as one. -/
def selected (history : History) (window : Nat → Bool) (mask : Nat) : Nat :=
  max 1 ((history.latest? window).getD 0 &&& mask)

/-- The number by which a program bank is selected. One circuit has it in two windows. -/
def number (history : History) : Mapper → Nat
  | .romOnly => 1
  | .mbc1 => history.selected (between 0x2000 0x3FFF) 0x1F
  | .mbc2 => history.selected (fun address => address < 0x4000 && address.testBit 8) 0x0F
  | .mbc3 => history.selected (between 0x2000 0x3FFF) 0x7F
  | .mbc5 =>
    (history.latest? (between 0x2000 0x2FFF)).getD 1
      + 256 * ((history.latest? (between 0x3000 0x3FFF)).getD 0 &&& 1)

/-- The two bits above the number that one circuit has. -/
def upper (history : History) : Nat :=
  (history.latest? (between 0x4000 0x5FFF)).getD 0 &&& 3

/-- Whether these bits move the lower half of the program area as well. -/
def mode (history : History) : Nat :=
  (history.latest? (between 0x6000 0x7FFF)).getD 0 % 2

/-- The bank in the lower half of the program area, where an image has so many of them. -/
def lowBank (history : History) (banks : Nat) : Mapper → Nat
  | .mbc1 => if history.mode = 1 then (history.upper <<< 5) % banks else 0
  | _ => 0

/-- The bank in the upper half of the program area. -/
def highBank (history : History) (banks : Nat) : Mapper → Nat
  | .romOnly => 1
  | .mbc1 => (history.upper <<< 5 ||| history.number .mbc1) % banks
  | mapper => history.number mapper % banks

end History

-----------------------------------------------------------------------------------------
-- What the registers hold
-----------------------------------------------------------------------------------------

namespace History

variable {history : History} {window : Nat → Bool} {address : Address}

theorem between_iff {first last address : Nat}
    : between first last address = true ↔ first ≤ address ∧ address ≤ last :=
  decide_eq_true_iff

theorem selected_write (history : History) (window : Nat → Bool) (mask : Nat) (address : Address)
    (value : Int)
    : History.selected (.write address value :: history) window mask
      = if window address then max 1 ((Byte.ofInt value).toNat &&& mask)
        else history.selected window mask := by
  rw [selected, latest?]
  split <;> rfl

theorem latest?_lt {default : Nat} (bound : default < 256)
    : (history.latest? window).getD default < 256 := by
  induction history with
  | nil => exact bound
  | cons act earlier ih =>
      cases act with
      | write address value =>
          rw [latest?]
          split
          · exact (Byte.ofInt value).isLt
          · exact ih
      | restoreRam bytes => exact ih
      | reset => exact bound

end History

variable {history : History} {k : Cartridge} {address : Address}

theorem selectRom_register (k : Cartridge) (number : Nat)
    : (k.selectRom number).romBankRegister = (max 1 number : Nat) := by
  rw [selectRom]
  dsimp only
  split <;> omega

/-- A cartridge holds in its bank registers what a history selects. -/
structure Follows (history : History) (k : Cartridge) : Prop where
  number : k.romBankRegister = history.number k.mapper
  upper : k.mapper = .mbc1 → k.ramBankRegister = history.upper
  mode : k.mapper = .mbc1 → k.bankingMode = history.mode

namespace Follows

theorem fresh (k : Cartridge) : Follows [] k.reset where
  number := by
    have mapper : k.reset.mapper = k.mapper := rfl
    rw [mapper]
    cases k.mapper <;> rfl
  upper _ := rfl
  mode _ := rfl

theorem reset (k : Cartridge) (history : History) : Follows (.reset :: history) k.reset where
  number := (fresh k).number
  upper := (fresh k).upper
  mode := (fresh k).mode

theorem control_number (follows : Follows history k) (low : address.val < 0x8000) (value : Int)
    : (k.control address.val (Byte.ofInt value)).romBankRegister
      = History.number (.write address value :: history) k.mapper := by
  have number := follows.number
  have mask := Nat.and_two_pow_sub_one_eq_mod (Byte.ofInt value).toNat
  cases kind : k.mapper <;> rw [kind] at number
    <;> simp only [control, kind, History.number, History.selected_write, History.between_iff,
      Bool.and_eq_true, Nat.testBit_eq_decide_div_mod_eq, decide_eq_true_iff] at number ⊢
  case romOnly => exact number
  case mbc1 =>
    split
    · rw [if_neg (by omega)]
      exact number
    split
    · rw [if_pos (by omega), selectRom_register, mask 5]
    · split <;> rw [if_neg (by omega)] <;> exact number
  case mbc2 =>
    split
    · rw [if_neg (by omega)]
      exact number
    split
    · rw [if_pos (by omega), selectRom_register, mask 4]
    · rw [if_neg (by omega)]
      exact number
  case mbc3 =>
    split
    · rw [if_neg (by omega)]
      exact number
    split
    · rw [if_pos (by omega), selectRom_register, mask 7]
    · split <;> rw [if_neg (by omega)] <;> exact number
  case mbc5 =>
    -- The low byte of the number and the bit above it are replaced apart.
    have bound : (history.latest? (History.between 0x2000 0x2FFF)).getD 1 < 256 :=
      History.latest?_lt (by decide)
    simp only [History.latest?, History.between_iff, Nat.and_one_is_mod] at number ⊢
    split
    · rw [if_neg (by omega), if_neg (by omega)]
      exact number
    split
    · rw [if_pos (by omega), if_neg (by omega), number, Option.getD_some]
      dsimp only
      omega
    split
    · rw [if_neg (by omega), if_pos (by omega), number, Option.getD_some]
      dsimp only
      omega
    · split <;> rw [if_neg (by omega), if_neg (by omega)] <;> exact number

theorem control_upper (follows : Follows history k) (mbc1 : k.mapper = .mbc1) (value : Int)
    : (k.control address.val (Byte.ofInt value)).ramBankRegister
      = History.upper (.write address value :: history) := by
  have upper := follows.upper mbc1
  simp only [control, mbc1, History.upper, History.latest?, History.between_iff] at upper ⊢
  split
  · rw [if_neg (by omega)]
    exact upper
  split
  · rw [if_neg (by omega)]
    exact upper
  split
  · rw [if_pos (by omega), Option.getD_some, Nat.and_two_pow_sub_one_eq_mod _ 2]
    rfl
  · rw [if_neg (by omega)]
    exact upper

theorem control_mode (follows : Follows history k) (mbc1 : k.mapper = .mbc1)
    (low : address.val < 0x8000) (value : Int)
    : (k.control address.val (Byte.ofInt value)).bankingMode
      = History.mode (.write address value :: history) := by
  have mode := follows.mode mbc1
  simp only [control, mbc1, History.mode, History.latest?, History.between_iff] at mode ⊢
  split
  · rw [if_neg (by omega)]
    exact mode
  split
  · rw [if_neg (by omega)]
    exact mode
  split
  · rw [if_neg (by omega)]
    exact mode
  · rw [if_pos (by omega), Option.getD_some]

theorem replaceRam (follows : Follows history k) {ram : Bytes} (size : ram.size = k.header.ramSize)
    : Follows history { k with ram, ram_size := size } where
  number := follows.number
  upper := follows.upper
  mode := follows.mode

/-- No control window reaches beyond the program area. -/
theorem above (follows : Follows history k) (high : 0x8000 ≤ address.val) (value : Int)
    : Follows (.write address value :: history) k := by
  have between {first last : Nat} (below : last < 0x8000)
      : History.between first last address.val = false :=
    decide_eq_false (by omega)
  have bit : ¬ address.val < 0x4000 := by omega
  constructor
  · rw [follows.number]
    cases k.mapper <;> simp [History.number, History.selected_write, History.latest?, between, bit]
  · intro mbc1
    rw [follows.upper mbc1]
    simp [History.upper, History.latest?, between]
  · intro mbc1
    rw [follows.mode mbc1]
    simp [History.mode, History.latest?, between]

end Follows

/-- No act touches the image or what its header says. -/
theorem perform_header (k : Cartridge) (act : Act)
    : (k.perform act).header = k.header ∧ (k.perform act).rom = k.rom := by
  cases act with
  | write address value =>
      rw [perform, write]
      split
      · exact k.control_header _ _
      split
      · exact k.writeRam_header _ _
      · exact ⟨rfl, rfl⟩
  | restoreRam bytes =>
      rw [perform]
      split
      case h_1 restored ok =>
        obtain ⟨_, rfl⟩ := restoreRam_ok ok
        exact ⟨rfl, rfl⟩
      case h_2 => exact ⟨rfl, rfl⟩
  | reset => exact ⟨rfl, rfl⟩

theorem Follows.perform (follows : Follows history k) (act : Act)
    : Follows (act :: history) (k.perform act) := by
  cases act with
  | write address value =>
      rw [Cartridge.perform, write]
      split
      case isTrue low =>
        have same := congrArg Header.mapper (k.control_header address.val (Byte.ofInt value)).1
        constructor <;> rw [mapper, same]
        · exact follows.control_number (by omega) value
        · exact fun mbc1 => follows.control_upper mbc1 value
        · exact fun mbc1 => follows.control_mode mbc1 (by omega) value
      case isFalse high =>
        have beyond : 0x8000 ≤ address.val := by omega
        have above := follows.above beyond value
        split
        · rw [writeRam]
          split
          · exact above
          · exact above.replaceRam _
        · exact above
  | restoreRam bytes =>
      rw [Cartridge.perform]
      split
      case h_1 restored ok =>
        obtain ⟨size, rfl⟩ := restoreRam_ok ok
        exact { follows with }
      case h_2 => exact { follows with }
  | reset => exact reset k history

theorem replay_follows (new : k.reset = k) (history : History)
    : Follows history (history.replay k) := by
  induction history with
  | nil => exact new ▸ Follows.fresh k
  | cons act earlier follows => exact follows.perform act

theorem replay_header (history : History) (k : Cartridge)
    : (history.replay k).header = k.header ∧ (history.replay k).rom = k.rom := by
  induction history with
  | nil => exact ⟨rfl, rfl⟩
  | cons act earlier same =>
      obtain ⟨header, rom⟩ := perform_header (History.replay earlier k) act
      exact ⟨header.trans same.1, rom.trans same.2⟩

-----------------------------------------------------------------------------------------
-- What a cartridge shows
-----------------------------------------------------------------------------------------

theorem Follows.romBank (follows : Follows history k) (banked : 2 ≤ k.header.romBanks)
    : k.romBank = history.highBank k.header.romBanks k.mapper := by
  have number := follows.number
  rw [Cartridge.romBank]
  cases kind : k.mapper <;> rw [kind] at number <;> simp only [History.highBank]
  case romOnly => exact Int.emod_eq_of_lt (by decide) (by omega)
  case mbc1 =>
    rw [follows.upper kind, number, Int.natCast_emod, Nat.shiftLeft_eq]
    rfl
  all_goals rw [number, Int.natCast_emod]

theorem Follows.lowRomBank (follows : Follows history k)
    : k.lowRomBank = history.lowBank k.header.romBanks k.mapper := by
  rw [Cartridge.lowRomBank]
  cases kind : k.mapper <;> simp only [History.lowBank]
  case mbc1 =>
    have mode : history.mode = 0 ∨ history.mode = 1 := Nat.mod_two_eq_zero_or_one _
    rw [follows.upper kind, follows.mode kind]
    rcases mode with mode | mode
    · rw [mode, if_neg (by decide), if_neg (by decide)]
      rfl
    · rw [mode, if_pos (by decide), if_pos rfl, Int.natCast_emod, Nat.shiftLeft_eq]
      rfl
  all_goals exact if_neg nofun

theorem romByte_eq {image : Bytes} {bank offset : Nat} (rom : k.rom = image)
    (banked : bank < k.header.romBanks) (short : offset < romBankSize)
    : ∃ inside : bank * romBankSize + offset < image.size,
        k.romByte bank offset = image[bank * romBankSize + offset] := by
  subst rom
  have inside : bank * romBankSize + offset < k.rom.size := by
    rw [k.rom_size, Header.romSize]
    calc bank * romBankSize + offset < bank * romBankSize + romBankSize :=
          Nat.add_lt_add_left short _
      _ = (bank + 1) * romBankSize := (Nat.succ_mul _ _).symm
      _ ≤ k.header.romBanks * romBankSize := Nat.mul_le_mul_right _ banked
  refine ⟨inside, ?_⟩
  have place : ((bank * romBankSize + offset : Int) % k.rom.size).toNat
      = bank * romBankSize + offset := by
    rw [Int.emod_eq_of_lt (by omega) (by omega)]
    omega
  rw [romByte, place, byteAt, Array.getElem?_eq_getElem inside, Option.getD_some]

namespace History

/-- The bank that an address of the program area shows. -/
def bankAt (history : History) (header : Header) (address : Nat) : Nat :=
  if address < romBankSize then history.lowBank header.romBanks header.mapper
  else history.highBank header.romBanks header.mapper

theorem bankAt_lt {header : Header} (banked : 2 ≤ header.romBanks) (address : Nat)
    : history.bankAt header address < header.romBanks := by
  have wrapped (number : Nat) : number % header.romBanks < header.romBanks :=
    Nat.mod_lt _ (by omega)
  rw [bankAt]
  split
  · cases header.mapper <;> simp only [lowBank]
    case mbc1 =>
      split
      · exact wrapped _
      · omega
    all_goals omega
  · cases header.mapper <;> simp only [highBank]
    case romOnly => exact banked
    all_goals exact wrapped _

end History

theorem Follows.read (follows : Follows history k) (banked : 2 ≤ k.header.romBanks)
    {address : Nat} (low : address < 0x8000)
    : k.read address
      = k.romByte (history.bankAt k.header address : Nat) (address % romBankSize : Nat) := by
  rw [Cartridge.read, if_pos (by omega), readRom, History.bankAt]
  by_cases lower : address < romBankSize
  · rw [if_pos (Int.ofNat_lt.mpr lower), if_pos lower, follows.lowRomBank, Nat.mod_eq_of_lt lower]
    rfl
  · have offset : (address : Int) - (0x4000 : Nat) = (address % 0x4000 : Nat) := by
      have upper : ¬ address < 0x4000 := lower
      omega
    rw [if_neg (mt Int.ofNat_lt.mp lower), if_neg lower, follows.romBank banked, offset]
    rfl

/-- Whatever has been done to a cartridge, it still has the bytes of its image, and every address of
the program area shows the one that the last writes to the control windows select. The place of that
byte is inside the image.
-/
theorem replay_shows {image : Bytes} (inserted : ofImage image = .ok k) (history : History)
    : (history.replay k).rom = image
      ∧ ∀ address < 0x8000,
          history.bankAt k.header address < k.header.romBanks
          ∧ ∃ inside : history.bankAt k.header address * romBankSize + address % romBankSize
              < image.size,
            (history.replay k).read address
              = image[history.bankAt k.header address * romBankSize + address % romBankSize] := by
  obtain ⟨parsed, rfl, new⟩ := ofImage_eq inserted
  obtain ⟨header, rom⟩ := replay_header history k
  have banked := Header.parse_banks parsed
  have follows := replay_follows new history
  refine ⟨rom, fun address low => ?_⟩
  have shown : history.bankAt k.header address < k.header.romBanks := History.bankAt_lt banked _
  rw [follows.read (header ▸ banked) low, header]
  exact ⟨shown, romByte_eq rom (by rwa [header]) (Nat.mod_lt _ (by decide))⟩

/-- An image of the size that its header promises makes a cartridge with that header. -/
theorem exists_ofImage {image : Bytes} (suits : Header → Prop)
    (parsed : ∃ header,
      Header.parse image = .ok header ∧ image.size = header.romSize ∧ suits header)
    : ∃ k, ofImage image = .ok k ∧ suits k.header := by
  obtain ⟨header, parsed, fits, suited⟩ := parsed
  obtain ⟨k, inserted⟩ := ofImage_ok parsed fits
  obtain rfl : k.header = header := Except.ok.inj ((ofImage_eq inserted).1.symm.trans parsed)
  exact ⟨k, inserted, suited⟩

/-- An image of 64 banks in which most bytes are the number of their bank. -/
def numberedImage : Bytes :=
  Array.ofFn fun place : Fin 0x100000 =>
    if place.val = 0x147 then 1 else if place.val = 0x148 then 5
    else BitVec.ofNat 8 (place / 0x4000)

theorem exists_numbered
    : ∃ k, ofImage numberedImage = .ok k ∧ k.header.romBanks = 64 ∧ k.header.mapper = .mbc1 := by
  have size : numberedImage.size = 0x100000 := Array.size_ofFn
  have byte {place : Nat} (inside : place < 0x100000) : byteAt numberedImage place
      = if place = 0x147 then 1 else if place = 0x148 then 5
        else BitVec.ofNat 8 (place / 0x4000) := by
    rw [byteAt, numberedImage, Array.getElem?_ofFn, dif_pos inside, Option.getD_some]
  refine exists_ofImage (fun header => header.romBanks = 64 ∧ header.mapper = .mbc1) ?_
  rw [Header.parse, byte (by decide), byte (by decide), byte (by decide),
    if_neg (by rw [size]; decide), size]
  exact ⟨_, rfl, rfl, rfl, rfl⟩

/-- The lower half can move as well, and a write of zero selects as one does. -/
theorem replay_shows_both_halves
    : ∃ k, ofImage numberedImage = .ok k
        ∧ let history : History :=
            [.write 0x3FFF 0xE5, .restoreRam #[], .write 0x6000 1, .write 0x4000 0xFD,
              .write 0x2000 0]
          (history.replay k).rom = numberedImage
          ∧ (history.replay k).read 0x3FFF = 32 ∧ (history.replay k).read 0x7FFF = 37 := by
  obtain ⟨k, inserted, banks, mapper⟩ := exists_numbered
  obtain ⟨rom, shows⟩ := replay_shows inserted
    [.write 0x3FFF 0xE5, .restoreRam #[], .write 0x6000 1, .write 0x4000 0xFD, .write 0x2000 0]
  obtain ⟨_, inside, lower⟩ := shows 0x3FFF (by decide)
  obtain ⟨_, inside', upper⟩ := shows 0x7FFF (by decide)
  refine ⟨k, inserted, rom, lower.trans ?_, upper.trans ?_⟩
  · simp only [History.bankAt, banks, mapper, numberedImage, Array.getElem_ofFn]
    decide
  · simp only [History.bankAt, banks, mapper, numberedImage, Array.getElem_ofFn]
    decide

end Handheld.Cartridge
