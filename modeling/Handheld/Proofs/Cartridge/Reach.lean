import Handheld.Proofs.Cartridge.ExternalRam

/-! What control writes can bring into view.
Whatever the registers of a circuit hold, a few writes lead to any place of the image and to any
cell of external memory, as long as there are no more banks than the circuit can tell apart. A board
without a circuit has nothing that could open a gate which a host has shut.
-/

namespace Handheld

namespace Mapper

/-- The number of program banks that a circuit can tell apart. -/
def romReach : Mapper → Nat
  | .romOnly => 2
  | .mbc1 => 128
  | .mbc2 => 16
  | .mbc3 => 128
  | .mbc5 => 512

/-- The number of banks of external memory that a circuit can tell apart. -/
def ramReach : Mapper → Nat
  | .romOnly | .mbc2 => 1
  | .mbc1 | .mbc3 => 4
  | .mbc5 => 16

/-- The part of a bank's number that is never zero in the upper half of the program area. A bank
with a zero there is to be found in the lower half.
-/
def lowPart (mapper : Mapper) (bank : Nat) : Nat :=
  if mapper = .mbc1 then bank % 32 else bank

/-- The writes that select a program bank, the latest first. -/
def romSelection (mapper : Mapper) (bank : Nat) : Cartridge.History :=
  match mapper with
  | .romOnly => []
  | .mbc1 => [.write 0x6000 1, .write 0x4000 (bank / 32 : Nat), .write 0x2000 (bank % 32 : Nat)]
  | .mbc2 | .mbc3 => [.write 0x2100 bank]
  | .mbc5 => [.write 0x3000 (bank / 256 : Nat), .write 0x2000 (bank % 256 : Nat)]

/-- The writes that open external memory and select a bank of it, the latest first. -/
def ramSelection (mapper : Mapper) (bank : Nat) : Cartridge.History :=
  match mapper with
  | .romOnly => []
  | .mbc1 => [.write 0x6000 1, .write 0x4000 bank, .write 0x0000 0x0A]
  | .mbc2 => [.write 0x0000 0x0A]
  | .mbc3 | .mbc5 => [.write 0x4000 bank, .write 0x0000 0x0A]

end Mapper

/-- A byte holds what remains of a number modulo 256. -/
theorem Byte.toNat_ofInt_natCast (number : Nat) : (Byte.ofInt number).toNat = number % 256 := by
  rw [Byte.ofInt, BitVec.ofInt_natCast, BitVec.toNat_ofNat]

namespace Cartridge

/-- Whether an act is a write to the program area. -/
def Act.isControl : Act → Bool
  | .write address _ => address.val < 0x8000
  | _ => false

/-- Nothing but writes to the program area has happened. -/
def History.Controls (history : History) : Prop :=
  ∀ act ∈ history, act.isControl = true

/-- The program bank that an address shows. -/
def bankIn (k : Cartridge) (address : Nat) : Int :=
  if address < romBankSize then k.lowRomBank else k.romBank

/-- The place of the image that an address of the program area shows. -/
def romPlace (k : Cartridge) (address : Nat) : Nat :=
  (k.bankIn address).toNat * romBankSize + address % romBankSize

/-- An address of external memory gets to a cell, and to no other one. -/
structure GetsTo (k : Cartridge) (address cell : Nat) : Prop where
  inside : History.between 0xA000 0xBFFF address
  only : k.ramCell? (address - 0xA000) = some cell
  read : k.read address = k.mapper.shown (byteAt k.ram cell)
  write : ∀ value, k.write address value = k.setCell cell (k.mapper.kept (Byte.ofInt value))

variable {k : Cartridge}

-----------------------------------------------------------------------------------------
-- Single control writes
-----------------------------------------------------------------------------------------

theorem perform_control {address : Address} (low : address.val < 0x8000) (value : Int)
    : k.perform (.write address value) = k.control address.val (Byte.ofInt value) := by
  rw [perform, write, if_pos (by omega)]

theorem perform_gate (gated : k.mapper ≠ .romOnly) (value : Int)
    : k.perform (.write 0x0000 value) = k.gateRam (Byte.ofInt value) := by
  rw [perform_control (by decide), control]
  cases kind : k.mapper <;> dsimp only
  case romOnly => exact absurd kind gated
  case mbc2 => rw [if_neg (by decide), if_neg (by decide)]
  all_goals exact if_pos (by decide)

theorem perform_number_mbc1 (kind : k.mapper = .mbc1) (value : Int)
    : k.perform (.write 0x2000 value) = k.selectRom ((Byte.ofInt value).toNat % 32) := by
  rw [perform_control (by decide), control, kind]
  dsimp only
  rw [if_neg (by decide), if_pos (by decide)]

theorem perform_number_mbc2 (kind : k.mapper = .mbc2) (value : Int)
    : k.perform (.write 0x2100 value) = k.selectRom ((Byte.ofInt value).toNat % 16) := by
  rw [perform_control (by decide), control, kind]
  dsimp only
  rw [if_neg (by decide), if_pos (by decide)]

theorem perform_number_mbc3 (kind : k.mapper = .mbc3) (value : Int)
    : k.perform (.write 0x2100 value) = k.selectRom ((Byte.ofInt value).toNat % 128) := by
  rw [perform_control (by decide), control, kind]
  dsimp only
  rw [if_neg (by decide), if_pos (by decide)]

theorem perform_low_mbc5 (kind : k.mapper = .mbc5) (value : Int)
    : k.perform (.write 0x2000 value)
      = { k with
          romBankRegister := k.romBankRegister / 256 % 2 * 256 + (Byte.ofInt value).toNat } := by
  rw [perform_control (by decide), control, kind]
  dsimp only
  rw [if_neg (by decide), if_pos (by decide)]

theorem perform_high_mbc5 (kind : k.mapper = .mbc5) (value : Int)
    : k.perform (.write 0x3000 value)
      = { k with
          romBankRegister
            := k.romBankRegister % 256 + ((Byte.ofInt value).toNat % 2 : Nat) * 256 } := by
  rw [perform_control (by decide), control, kind]
  dsimp only
  rw [if_neg (by decide), if_neg (by decide), if_pos (by decide)]

theorem perform_ram_mbc1 (kind : k.mapper = .mbc1) (value : Int)
    : k.perform (.write 0x4000 value) = k.selectRam ((Byte.ofInt value).toNat % 4) := by
  rw [perform_control (by decide), control, kind]
  dsimp only
  rw [if_neg (by decide), if_neg (by decide), if_pos (by decide)]

theorem perform_ram (kind : k.mapper = .mbc3 ∨ k.mapper = .mbc5) (value : Int)
    : k.perform (.write 0x4000 value) = k.selectRam ((Byte.ofInt value).toNat % 16) := by
  rw [perform_control (by decide), control]
  rcases kind with kind | kind <;> rw [kind] <;> dsimp only
  · rw [if_neg (by decide), if_neg (by decide), if_pos (by decide)]
  · rw [if_neg (by decide), if_neg (by decide), if_neg (by decide), if_pos (by decide)]

theorem perform_mode_mbc1 (kind : k.mapper = .mbc1)
    : k.perform (.write 0x6000 1) = { k with bankingMode := 1 } := by
  rw [perform_control (by decide), control, kind]
  dsimp only
  rw [if_neg (by decide), if_neg (by decide), if_neg (by decide)]
  rfl

-----------------------------------------------------------------------------------------
-- Program banks
-----------------------------------------------------------------------------------------

theorem replay_cons (act : Act) (earlier : History) (k : Cartridge)
    : History.replay (act :: earlier) k = (History.replay earlier k).perform act :=
  rfl

theorem replay_mapper (history : History) (k : Cartridge) : (history.replay k).mapper = k.mapper :=
  congrArg Header.mapper (replay_header history k).1

theorem replay_romSelection_mbc1 (kind : k.mapper = .mbc1) (bank : Nat)
    : (Mapper.mbc1.romSelection bank).replay k
      = { (k.selectRom (bank % 32)).selectRam (bank / 32 % 4) with bankingMode := 1 } := by
  have low : (Byte.ofInt (bank % 32 : Nat)).toNat % 32 = bank % 32 := by
    rw [Byte.toNat_ofInt_natCast]
    omega
  have high : (Byte.ofInt (bank / 32 : Nat)).toNat % 4 = bank / 32 % 4 := by
    rw [Byte.toNat_ofInt_natCast]
    omega
  simp only [Mapper.romSelection, History.replay, List.foldr_cons, List.foldr_nil]
  rw [perform_number_mbc1 kind, low, perform_ram_mbc1 (k := k.selectRom _) kind, high,
    perform_mode_mbc1 (k := (k.selectRom _).selectRam _) kind]

/-- The other circuits with banks have the whole number in one register. -/
theorem register_selected {bank : Nat}
    (kind : k.mapper = .mbc2 ∨ k.mapper = .mbc3 ∨ k.mapper = .mbc5)
    (bound : bank < k.mapper.romReach) (some_bank : bank ≠ 0)
    : ((k.mapper.romSelection bank).replay k).romBankRegister = bank := by
  rcases kind with kind | kind | kind <;> rw [kind, Mapper.romReach] at bound <;> rw [kind]
    <;> simp only [Mapper.romSelection, History.replay, List.foldr_cons, List.foldr_nil]
  · rw [perform_number_mbc2 kind, Byte.toNat_ofInt_natCast, selectRom_register]
    omega
  · rw [perform_number_mbc3 kind, Byte.toNat_ofInt_natCast, selectRom_register]
    omega
  · rw [perform_low_mbc5 kind,
      perform_high_mbc5 (k := { k with romBankRegister := _ + ((_ : Nat) : Int) }) kind,
      Byte.toNat_ofInt_natCast, Byte.toNat_ofInt_natCast]
    dsimp only
    omega

/-- The two parts of a bank's number that one circuit has in different registers. -/
theorem lor_parts {bank : Nat} (few : bank < 128)
    : Bits.lor ((bank / 32 % 4 : Nat) * 32) (bank % 32 : Nat) = bank := by
  have parts : (bank / 32 % 4) <<< 5 ||| bank % 32 = bank := by
    rw [← Nat.shiftLeft_add_eq_or_of_lt (by omega), Nat.shiftLeft_eq]
    omega
  rw [Nat.shiftLeft_eq] at parts
  exact congrArg Int.ofNat parts

/-- A bank with a zero in its low part is selected for the lower half. -/
theorem lowRomBank_selected {bank : Nat} (known : bank < k.header.romBanks)
    (few : k.header.romBanks ≤ k.mapper.romReach) (low : k.mapper.lowPart bank = 0)
    : ((k.mapper.romSelection bank).replay k).lowRomBank = bank := by
  by_cases kind : k.mapper = .mbc1
  · rw [kind] at few low ⊢
    have bound : bank < 128 := Nat.lt_of_lt_of_le known few
    have multiple : bank % 32 = 0 := low
    have whole : ((bank / 32 % 4 : Nat) : Int) * 32 = bank := by omega
    rw [replay_romSelection_mbc1 kind, lowRomBank, if_pos ⟨kind, Int.one_ne_zero⟩]
    dsimp only [selectRam, selectRom]
    rw [whole]
    exact Int.emod_eq_of_lt (by omega) (by omega)
  · rw [Mapper.lowPart, if_neg kind] at low
    rw [lowRomBank, replay_mapper, if_neg fun both => kind both.1, low]
    rfl

/-- Any other bank is selected for the upper half. -/
theorem romBank_selected {bank : Nat} (known : bank < k.header.romBanks)
    (few : k.header.romBanks ≤ k.mapper.romReach) (high : k.mapper.lowPart bank ≠ 0)
    : ((k.mapper.romSelection bank).replay k).romBank = bank := by
  have bound : bank < k.mapper.romReach := Nat.lt_of_lt_of_le known few
  have within : (bank : Int) % k.header.romBanks = bank :=
    Int.emod_eq_of_lt (by omega) (by omega)
  have register (kind : k.mapper = .mbc2 ∨ k.mapper = .mbc3 ∨ k.mapper = .mbc5)
      : ((k.mapper.romSelection bank).replay k).romBankRegister = bank :=
    register_selected kind bound fun none => high (by rw [none, Mapper.lowPart]; split <;> rfl)
  rw [romBank, replay_mapper, (replay_header _ k).1]
  cases kind : k.mapper <;> rw [kind] at high bound register <;> dsimp only
  case romOnly =>
    obtain rfl : bank = 1 := by
      have two : bank < 2 := bound
      have some_bank : bank ≠ 0 := high
      omega
    exact within
  case mbc1 =>
    have number : bank % 32 ≠ 0 := high
    rw [replay_romSelection_mbc1 kind, selectRom, if_neg number]
    exact (congrArg (· % (k.header.romBanks : Int)) (lor_parts bound)).trans within
  case mbc2 => rw [register (.inl rfl), within]
  case mbc3 => rw [register (.inr (.inl rfl)), within]
  case mbc5 => rw [register (.inr (.inr rfl)), within]

theorem bankIn_bounds (banked : 2 ≤ k.header.romBanks) (address : Nat)
    : 0 ≤ k.bankIn address ∧ k.bankIn address < k.header.romBanks := by
  have wrapped (number : Int)
      : 0 ≤ number % k.header.romBanks ∧ number % k.header.romBanks < k.header.romBanks :=
    ⟨Int.emod_nonneg _ (by omega), Int.emod_lt_of_pos _ (by omega)⟩
  rw [bankIn, lowRomBank]
  split
  · split
    · exact wrapped _
    · omega
  · exact wrapped _

/-- One of the two halves shows the place that is asked for. -/
theorem exists_romPlace {place : Nat} (known : place / romBankSize < k.header.romBanks)
    (few : k.header.romBanks ≤ k.mapper.romReach)
    : ∃ address < 0x8000,
        ((k.mapper.romSelection (place / romBankSize)).replay k).romPlace address = place := by
  have offset : place % 0x4000 < 0x4000 := Nat.mod_lt _ (by decide)
  have whole : place / romBankSize * romBankSize + place % romBankSize = place :=
    Nat.div_add_mod' place romBankSize
  by_cases low : k.mapper.lowPart (place / romBankSize) = 0
  · refine ⟨place % 0x4000, by omega, ?_⟩
    rw [romPlace, bankIn, if_pos offset, lowRomBank_selected known few low, Int.toNat_natCast,
      Nat.mod_mod, whole]
  · refine ⟨0x4000 + place % 0x4000, by omega, ?_⟩
    rw [romPlace, bankIn, if_neg (by simp), romBank_selected known few low, Int.toNat_natCast,
      Nat.add_mod_left, Nat.mod_mod, whole]

/-- An address of the program area shows the byte at its place, which is inside the image. -/
theorem read_romPlace (banked : 2 ≤ k.header.romBanks) {address : Nat} (low : address < 0x8000)
    : k.rom[k.romPlace address]? = some (k.read address) := by
  obtain ⟨least, most⟩ := bankIn_bounds banked address
  have same : ((k.bankIn address).toNat : Int) = k.bankIn address := Int.toNat_of_nonneg least
  have known : (k.bankIn address).toNat < k.header.romBanks := by omega
  obtain ⟨inside, byte⟩ := romByte_eq (k := k) rfl known
    (Nat.mod_lt address (by decide : 0 < romBankSize))
  have read : k.read address = k.romByte (k.bankIn address) (address % romBankSize : Nat) := by
    rw [Cartridge.read, if_pos (by omega), readRom, bankIn]
    by_cases lower : address < romBankSize
    · rw [if_pos (Int.ofNat_lt.mpr lower), if_pos lower, Nat.mod_eq_of_lt lower]
    · have offset : (address : Int) - (0x4000 : Nat) = (address % 0x4000 : Nat) := by
        have upper : ¬ address < 0x4000 := lower
        omega
      rw [if_neg (mt Int.ofNat_lt.mp lower), if_neg lower, offset]
  rw [romPlace, Array.getElem?_eq_getElem inside, ← byte, same, read]

-----------------------------------------------------------------------------------------
-- Cells of external memory
-----------------------------------------------------------------------------------------

theorem ramSize?_whole {code : Byte} {size : Nat} (known : ramSize? code = some size)
    : size ≤ ramBankSize ∨ ramBankSize ∣ size := by
  rw [ramSize?] at known
  split at known <;> cases known <;> decide

/-- External memory consists of whole banks, or there is no more of it than a bank. -/
theorem Header.parse_ram {image : Bytes} {header : Header} (parsed : parse image = .ok header)
    : header.ramSize ≤ ramBankSize ∨ ramBankSize ∣ header.ramSize := by
  obtain ⟨_, _, _, _, _, _, stored, rfl⟩ := exists_of_parse parsed
  dsimp only
  split
  · exact .inl (by decide)
  split
  · exact ramSize?_whole stored
  · exact .inl (Nat.zero_le _)

/-- Every cell is in a bank that there is. -/
theorem Header.bank_lt {header : Header} {cell : Nat}
    (sized : header.ramSize ≤ ramBankSize ∨ ramBankSize ∣ header.ramSize)
    (stored : cell < header.ramSize)
    : cell / ramBankSize < header.ramBanks := by
  rw [Header.ramBanks, if_neg (by omega)]
  rcases sized with small | whole
  · have first : cell / ramBankSize = 0 := Nat.div_eq_of_lt (by omega)
    omega
  · have inside := Nat.div_lt_div_of_lt_of_dvd whole stored
    omega

theorem replay_ramSelection_mbc1 (kind : k.mapper = .mbc1) (bank : Nat)
    : (Mapper.mbc1.ramSelection bank).replay k
      = { (k.gateRam 0x0A).selectRam (bank % 256 % 4) with bankingMode := 1 } := by
  have gated : k.mapper ≠ .romOnly := by
    rw [kind]
    decide
  simp only [Mapper.ramSelection, History.replay, List.foldr_cons, List.foldr_nil]
  rw [perform_gate gated, perform_ram_mbc1 (k := k.gateRam _) kind, Byte.toNat_ofInt_natCast,
    perform_mode_mbc1 (k := (k.gateRam _).selectRam _) kind]
  rfl

theorem replay_ramSelection_mbc2 (kind : k.mapper = .mbc2) (bank : Nat)
    : (Mapper.mbc2.ramSelection bank).replay k = k.gateRam 0x0A := by
  have gated : k.mapper ≠ .romOnly := by
    rw [kind]
    decide
  simp only [Mapper.ramSelection, History.replay, List.foldr_cons, List.foldr_nil]
  exact perform_gate gated _

theorem replay_ramSelection_plain (kind : k.mapper = .mbc3 ∨ k.mapper = .mbc5) (bank : Nat)
    : (k.mapper.ramSelection bank).replay k = (k.gateRam 0x0A).selectRam (bank % 256 % 16) := by
  have gated : k.mapper ≠ .romOnly := by
    rcases kind with kind | kind <;> rw [kind] <;> decide
  have body : (k.mapper.ramSelection bank).replay k
      = perform (.write 0x4000 bank) (k.perform (.write 0x0000 0x0A)) := by
    rcases kind with kind | kind <;> rw [kind]
      <;> simp only [Mapper.ramSelection, History.replay, List.foldr_cons, List.foldr_nil]
  rw [body, perform_gate gated, perform_ram (k := k.gateRam _) kind, Byte.toNat_ofInt_natCast]
  rfl

/-- The writes open external memory. A board without a gate has to be open. -/
theorem ramEnabled_selected (ungated : k.mapper = .romOnly → k.ramEnabled = true) (bank : Nat)
    : ((k.mapper.ramSelection bank).replay k).ramEnabled = true := by
  cases kind : k.mapper
  case romOnly => exact ungated kind
  case mbc1 =>
    rw [replay_ramSelection_mbc1 kind]
    rfl
  case mbc2 =>
    rw [replay_ramSelection_mbc2 kind]
    rfl
  case mbc3 =>
    rw [← kind, replay_ramSelection_plain (.inl kind)]
    rfl
  case mbc5 =>
    rw [← kind, replay_ramSelection_plain (.inr kind)]
    rfl

/-- The writes select the bank. -/
theorem ramBank_selected {bank : Nat} (known : bank < k.header.ramBanks)
    (few : k.header.ramBanks ≤ k.mapper.ramReach)
    : ((k.mapper.ramSelection bank).replay k).ramBank = bank
      ∧ (k.mapper = .mbc3 → ((k.mapper.ramSelection bank).replay k).ramBankRegister ≤ 3) := by
  have bound : bank < k.mapper.ramReach := Nat.lt_of_lt_of_le known few
  have within : (bank : Int) % (max 1 k.header.ramBanks : Nat) = bank :=
    Int.emod_eq_of_lt (by omega) (by omega)
  rw [Cartridge.ramBank, ramBankCount, replay_mapper, (replay_header _ k).1]
  cases kind : k.mapper <;> rw [kind] at bound <;> dsimp only
  case romOnly =>
    obtain rfl : bank = 0 := Nat.lt_one_iff.mp bound
    exact ⟨within, fun other => by cases other⟩
  case mbc2 =>
    obtain rfl : bank = 0 := Nat.lt_one_iff.mp bound
    exact ⟨within, fun other => by cases other⟩
  case mbc1 =>
    have small : bank < 4 := bound
    have held : bank % 256 % 4 = bank := by omega
    rw [replay_ramSelection_mbc1 kind, held]
    exact ⟨within, fun other => by cases other⟩
  case mbc3 =>
    have small : bank < 4 := bound
    have held : bank % 256 % 16 = bank := by omega
    rw [← kind, replay_ramSelection_plain (.inl kind), held]
    exact ⟨within, fun _ => Int.ofNat_le.mpr (Nat.le_of_lt_succ small)⟩
  case mbc5 =>
    have small : bank < 16 := bound
    have held : bank % 256 % 16 = bank := by omega
    rw [← kind, replay_ramSelection_plain (.inr kind), held]
    exact ⟨within, fun other => by cases kind.symm.trans other⟩

/-- External memory keeps what it holds. -/
theorem History.Controls.ram {history : History} (controls : history.Controls) (k : Cartridge)
    : (history.replay k).ram = k.ram := by
  induction history with
  | nil => rfl
  | cons act earlier ih =>
      obtain ⟨control, before⟩ := List.forall_mem_cons.mp controls
      cases act with
      | write address value =>
          have low : address.val < 0x8000 := of_decide_eq_true control
          rw [← ih before, replay_cons, perform_control low, Remembers.control_ram]
      | restoreRam bytes => cases control
      | reset => cases control

theorem getsTo_of_ramCell? {address cell : Nat} (inside : History.between 0xA000 0xBFFF address)
    (only : k.ramCell? (address - 0xA000) = some cell)
    : k.GetsTo address cell where
  inside := inside
  only := only
  read := by
    have bounds := History.between_iff.mp inside
    rw [Cartridge.read, if_neg (by omega), ramOffset?_inside inside, Option.map_some,
      Option.getD_some, readRam, only]
    rfl
  write value := by
    have bounds := History.between_iff.mp inside
    rw [Cartridge.write, if_neg (by omega), ramOffset?_inside inside]
    dsimp only
    rw [writeRam, only]
    rfl

theorem romSelection_controls (mapper : Mapper) (bank : Nat)
    : (mapper.romSelection bank).Controls := by
  apply List.all_eq_true.mp
  cases mapper <;> rfl

theorem ramSelection_controls (mapper : Mapper) (bank : Nat)
    : (mapper.ramSelection bank).Controls := by
  apply List.all_eq_true.mp
  cases mapper <;> rfl

/-- The writes lead to the cell that is asked for. -/
theorem ramCell?_selected {cell : Nat} (stored : cell < k.ram.size)
    (known : cell / ramBankSize < k.header.ramBanks) (few : k.header.ramBanks ≤ k.mapper.ramReach)
    (ungated : k.mapper = .romOnly → k.ramEnabled = true)
    : ((k.mapper.ramSelection (cell / ramBankSize)).replay k).ramCell? (cell % ramBankSize)
      = some cell := by
  obtain ⟨bank, apart⟩ := ramBank_selected known few
  have opened := ramEnabled_selected ungated (cell / ramBankSize)
  have kept := (ramSelection_controls k.mapper (cell / ramBankSize)).ram k
  have split : cell / ramBankSize * ramBankSize + cell % ramBankSize = cell :=
    Nat.div_add_mod' cell ramBankSize
  have within : cell % k.ram.size = cell := Nat.mod_eq_of_lt stored
  have answering : ¬ (k.ram.size = 0 ∨ (!true) = true) := by
    rintro (none | shut)
    · omega
    · cases shut
  rw [ramCell?, kept, opened, bank, replay_mapper, if_neg answering,
    if_neg fun clock => absurd (apart clock.1) (Int.not_le.mpr clock.2), Int.toNat_natCast, split,
    within]
  split
  case isTrue kind =>
    -- A circuit without bank registers has no more than one bank.
    rw [kind, Mapper.ramReach] at few
    have first : cell / ramBankSize = 0 := Nat.lt_one_iff.mp (Nat.lt_of_lt_of_le known few)
    rw [first, Nat.zero_mul, Nat.zero_add] at split
    rw [split, within]
  case isFalse => rfl

theorem ramCell?_shut (shut : k.ramEnabled = false) (offset : Nat) : k.ramCell? offset = none := by
  rw [ramCell?, shut]
  exact if_pos (.inr rfl)

/-- A cell that can be got to is behind an open gate. -/
theorem GetsTo.opened {address cell : Nat} (gets : k.GetsTo address cell) : k.ramEnabled = true := by
  rw [← Bool.not_eq_false]
  intro shut
  cases (ramCell?_shut shut _).symm.trans gets.only

/-- Behind a shut gate there is nothing to be read and nothing to be written. -/
theorem access_shut (shut : k.ramEnabled = false) {address : Nat}
    (inside : History.between 0xA000 0xBFFF address)
    : k.read address = openBus ∧ ∀ value, k.write address value = k := by
  have bounds := History.between_iff.mp inside
  constructor
  · rw [Cartridge.read, if_neg (by omega), ramOffset?_inside inside, Option.map_some,
      Option.getD_some, readRam, ramCell?_shut shut]
  · intro value
    rw [Cartridge.write, if_neg (by omega), ramOffset?_inside inside]
    dsimp only
    rw [writeRam, ramCell?_shut shut]

/-- A board without a circuit takes no notice of control writes. -/
theorem History.Controls.replay_romOnly {history : History} (controls : history.Controls)
    (kind : k.mapper = .romOnly)
    : history.replay k = k := by
  induction history with
  | nil => rfl
  | cons act earlier ih =>
      obtain ⟨control, before⟩ := List.forall_mem_cons.mp controls
      cases act with
      | write address value =>
          have low : address.val < 0x8000 := of_decide_eq_true control
          rw [replay_cons, ih before, perform_control low, Cartridge.control, kind]
      | restoreRam bytes => cases control
      | reset => cases control

-----------------------------------------------------------------------------------------
-- Whole cartridges
-----------------------------------------------------------------------------------------

/-- A few writes to the program area bring any place of the image into view. -/
theorem exists_read (accepted : Header.parse k.rom = .ok k.header)
    (few : k.header.romBanks ≤ k.mapper.romReach) {place : Nat} (inside : place < k.rom.size)
    : ∃ writes : History, writes.Controls ∧ ∃ address < 0x8000,
        (writes.replay k).romPlace address = place
          ∧ (writes.replay k).read address = k.rom[place] := by
  have known : place / romBankSize < k.header.romBanks :=
    Nat.div_lt_of_lt_mul (by rwa [Nat.mul_comm, ← Header.romSize, ← k.rom_size])
  obtain ⟨address, low, shown⟩ := exists_romPlace known few
  refine ⟨_, romSelection_controls k.mapper _, address, low, shown, ?_⟩
  obtain ⟨header, rom⟩ := replay_header (k.mapper.romSelection (place / romBankSize)) k
  have read := read_romPlace (header ▸ Header.parse_banks accepted) low
  rw [shown, rom, Array.getElem?_eq_getElem inside] at read
  exact (Option.some.inj read).symm

/-- A few writes to the program area bring any cell of external memory into view, unless the board
has no gate and is closed all the same.
-/
theorem exists_getsTo (accepted : Header.parse k.rom = .ok k.header)
    (few : k.header.ramBanks ≤ k.mapper.ramReach)
    (ungated : k.mapper = .romOnly → k.ramEnabled = true) {cell : Nat} (stored : cell < k.ram.size)
    : ∃ writes : History, writes.Controls ∧ (writes.replay k).ram = k.ram
        ∧ ∃ address, (writes.replay k).GetsTo address cell := by
  have known := Header.bank_lt (Header.parse_ram accepted) (k.ram_size ▸ stored)
  have controls := ramSelection_controls k.mapper (cell / ramBankSize)
  have offset : cell % ramBankSize < ramBankSize := Nat.mod_lt _ (by decide)
  refine ⟨_, controls, controls.ram k, 0xA000 + cell % ramBankSize,
    getsTo_of_ramCell? (History.between_iff.mpr ?_) ?_⟩
  · simp only [ramBankSize] at offset ⊢
    omega
  · rw [Nat.add_sub_cancel_left]
    exact ramCell?_selected stored known few ungated

/-- The same cartridge with anything in its gate and its bank registers, as from a state that a host
has written itself.
-/
def strewn (gate : Bool) (rom ram mode : Int) (k : Cartridge) : Cartridge :=
  { k with
    ramEnabled := gate, romBankRegister := rom, ramBankRegister := ram, bankingMode := mode }

theorem strewn_header (gate : Bool) (rom ram mode : Int) (k : Cartridge)
    : (k.strewn gate rom ram mode).header = k.header :=
  rfl

theorem strewn_rom (gate : Bool) (rom ram mode : Int) (k : Cartridge)
    : (k.strewn gate rom ram mode).rom = k.rom :=
  rfl

/-- Whatever has happened to a cartridge, and whatever its gate and its bank registers hold, a few
writes to the program area bring any place of its image into view, if there are no more banks than
its circuit can tell apart. So they do with any cell of its external memory, just if the board has a
circuit or its gate is open.
-/
theorem within_reach {image : Bytes} {fresh : Cartridge} (inserted : ofImage image = .ok fresh)
    (history : History) (gate : Bool) (rom ram mode : Int)
    : let k := (history.replay fresh).strewn gate rom ram mode
      (k.header.romBanks ≤ k.mapper.romReach
        → ∀ place (inside : place < k.rom.size), ∃ writes : History, writes.Controls
        ∧ ∃ address < 0x8000, (writes.replay k).romPlace address = place
          ∧ (writes.replay k).read address = k.rom[place])
      ∧ (k.header.ramBanks ≤ k.mapper.ramReach
        → ∀ cell < k.ram.size,
          (∃ writes : History, writes.Controls ∧ (writes.replay k).ram = k.ram
            ∧ ∃ address, (writes.replay k).GetsTo address cell)
          ↔ (k.mapper = .romOnly → gate = true)) := by
  intro k
  obtain ⟨parsed, rfl, _⟩ := ofImage_eq inserted
  obtain ⟨header, same⟩ := replay_header history fresh
  have accepted : Header.parse k.rom = .ok k.header :=
    (congrArg Header.parse same).trans (parsed.trans (congrArg Except.ok header.symm))
  refine ⟨fun few place inside => exists_read accepted few inside, fun few cell stored => ?_⟩
  constructor
  · rintro ⟨writes, controls, _, address, gets⟩ kind
    rw [controls.replay_romOnly kind] at gets
    exact gets.opened
  · exact fun ungated => exists_getsTo accepted few ungated stored

/-- From numbers that no control write leaves in a register, a bank that only the lower half can
show is brought into view, and so is the last cell of a memory that is shut.
-/
theorem within_reach_astray
    : let closed : History := [.write 0x0000 0x00, .write 0x0000 0x0A]
      (∃ fresh, ofImage numberedImage = .ok fresh
        ∧ ∃ writes : History, writes.Controls ∧ ∃ address < 0x8000,
          (writes.replay ((closed.replay fresh).strewn false 999 (-5) 7)).romPlace address = 0x80001
          ∧ (writes.replay ((closed.replay fresh).strewn false 999 (-5) 7)).read address = 32)
      ∧ ∃ fresh, ofImage smallImage = .ok fresh
          ∧ ∃ writes : History, writes.Controls ∧ ∃ address,
            (writes.replay ((closed.replay fresh).strewn false 999 (-5) 7)).GetsTo address 0x7FF := by
  intro closed
  constructor
  · obtain ⟨fresh, inserted, banks, mapper⟩ := exists_numbered
    obtain ⟨_, image, _⟩ := ofImage_eq inserted
    obtain ⟨header, rom⟩ := replay_header closed fresh
    obtain ⟨places, -⟩ := within_reach inserted closed false 999 (-5) 7
    rw [← strewn_header false 999 (-5) 7] at header
    rw [← strewn_rom false 999 (-5) 7, image] at rom
    refine ⟨fresh, inserted, ?_⟩
    generalize (closed.replay fresh).strewn false 999 (-5) 7 = k at header rom places ⊢
    have few : k.header.romBanks ≤ k.header.mapper.romReach := by
      rw [header, banks, mapper]
      decide
    have size : k.rom.size = 0x100000 := (congrArg Array.size rom).trans Array.size_ofFn
    obtain ⟨writes, controls, address, low, place, shown⟩ :=
      places few 0x80001 (by rw [size]; decide)
    refine ⟨writes, controls, address, low, place, shown.trans ?_⟩
    simp only [rom, numberedImage, Array.getElem_ofFn]
    decide
  · obtain ⟨fresh, inserted, mapper, ram, _⟩ := exists_small
    obtain ⟨header, _⟩ := replay_header closed fresh
    obtain ⟨-, cells⟩ := within_reach inserted closed false 999 (-5) 7
    rw [← strewn_header false 999 (-5) 7] at header
    refine ⟨fresh, inserted, ?_⟩
    generalize (closed.replay fresh).strewn false 999 (-5) 7 = k at header cells ⊢
    have few : k.header.ramBanks ≤ k.header.mapper.ramReach := by
      rw [header, Header.ramBanks, ram, mapper]
      decide
    have stored : 0x7FF < k.ram.size := by
      rw [k.ram_size, header, ram]
      decide
    have circuit : k.header.mapper = .romOnly → false = true := by
      rw [header, mapper]
      exact fun same => by cases same
    obtain ⟨writes, controls, _, reached⟩ := (cells few 0x7FF stored).mpr circuit
    exact ⟨writes, controls, reached⟩

/-- An image for a board with a bank of external memory and no circuit. -/
def openImage : Bytes :=
  Array.ofFn fun place : Fin 0x8000 =>
    if place.val = 0x147 then 8 else if place.val = 0x149 then 2 else 0

theorem exists_open
    : ∃ k, ofImage openImage = .ok k ∧ k.mapper = .romOnly ∧ k.header.ramSize = 0x2000 := by
  have size : openImage.size = 0x8000 := Array.size_ofFn
  have byte {place : Nat} (inside : place < 0x8000) : byteAt openImage place
      = if place = 0x147 then 8 else if place = 0x149 then 2 else 0 := by
    rw [byteAt, openImage, Array.getElem?_ofFn, dif_pos inside, Option.getD_some]
  refine exists_ofImage (fun header => header.mapper = .romOnly ∧ header.ramSize = 0x2000) ?_
  rw [Header.parse, byte (by decide), byte (by decide), byte (by decide),
    if_neg (by rw [size]; decide), size]
  exact ⟨_, rfl, rfl, rfl, rfl⟩

/-- A saved state shuts the gate of a board that has no means to open one. After no control writes
does an address get to the first cell of its memory, which is within reach by number: every address
of the area shows an open bus and ignores what is written. A reset brings the cell back.
-/
theorem restoreBanks_unreachable
    : ∃ k shut, ofImage openImage = .ok k
        ∧ (restoreBanks (.object [("ram_enabled", .int 0)])).perform k = (.ok (), shut)
        ∧ shut.header.ramBanks ≤ shut.mapper.ramReach ∧ 0 < shut.ram.size
        ∧ (∀ writes : History, writes.Controls → ∀ address,
          ¬(writes.replay shut).GetsTo address 0
          ∧ (History.between 0xA000 0xBFFF address →
            (writes.replay shut).read address = 0xFF
              ∧ ∀ value, (writes.replay shut).write address value = shut))
        ∧ shut.reset.GetsTo 0xA000 0 := by
  obtain ⟨k, inserted, mapper, ram⟩ := exists_open
  have stored : 0 < k.ram.size := by
    rw [k.ram_size, ram]
    decide
  have banks : k.header.ramBanks ≤ k.mapper.ramReach := by
    rw [Header.ramBanks, ram, mapper]
    decide
  refine ⟨k, k.strewn false 1 0 0, inserted, rfl, banks, stored, ?_, ?_⟩
  · intro writes controls address
    rw [controls.replay_romOnly (k := k.strewn false 1 0 0) mapper]
    have shut : (k.strewn false 1 0 0).ramEnabled = false := rfl
    exact ⟨fun gets => absurd gets.opened (Bool.eq_false_iff.mp shut), access_shut shut⟩
  · have opened : (k.strewn false 1 0 0).reset.ramEnabled = true := decide_eq_true mapper
    have kind : (k.strewn false 1 0 0).reset.mapper = .romOnly := mapper
    have first : (k.strewn false 1 0 0).reset.ramBank = 0 := by
      rw [ramBank, kind]
      exact Int.zero_emod _
    have same : (k.strewn false 1 0 0).reset.ram = k.ram := rfl
    refine getsTo_of_ramCell? (by decide) ?_
    simp [ramCell?, opened, first, kind, same, Nat.pos_iff_ne_zero.mp stored]

end Cartridge

end Handheld
