import Handheld.Proofs.Cartridge.Mapping

/-! What external memory holds.
The history of a cartridge says whether its memory answers, which cell an address reaches, and what
was last left there.
-/

namespace Handheld

/-- What a cell keeps of a byte. One circuit has cells of four bits. -/
def Mapper.kept (mapper : Mapper) (value : Byte) : Byte :=
  if mapper = .mbc2 then value &&& 0x0F#8 else value

/-- What a cell puts on the bus. Bits that a cell has not got read as ones. -/
def Mapper.shown (mapper : Mapper) (byte : Byte) : Byte :=
  if mapper = .mbc2 then 0xF0#8 ||| byte else byte

namespace Cartridge

-----------------------------------------------------------------------------------------
-- What a history opens, reaches and leaves
-----------------------------------------------------------------------------------------

namespace History

/-- The window whose writes open and close external memory. -/
def isGate (mapper : Mapper) (address : Nat) : Bool :=
  if mapper = .mbc2 then address < 0x4000 && !address.testBit 8 else between 0 0x1FFF address

/-- Whether external memory is open. One circuit has no gate. -/
def isOpen (history : History) (mapper : Mapper) : Bool :=
  mapper = .romOnly || (history.latest? (isGate mapper)).any (· % 16 = 0x0A)

/-- The number by which a bank of external memory is selected. -/
def ramNumber (history : History) : Mapper → Nat
  | .romOnly | .mbc2 => 0
  | .mbc1 => if history.mode = 1 then history.upper else 0
  | .mbc3 | .mbc5 => (history.latest? (between 0x4000 0x5FFF)).getD 0 &&& 0x0F

/-- Whether there is external memory and it answers. The numbers beyond the banks of one circuit
select none. -/
def answers (history : History) (header : Header) : Bool :=
  header.ramSize ≠ 0 && history.isOpen header.mapper
    && !(header.mapper = .mbc3 && 3 < history.ramNumber header.mapper)

/-- The bank of external memory. -/
def ramBank (history : History) (header : Header) : Nat :=
  history.ramNumber header.mapper % max 1 header.ramBanks

/-- The cell behind an address. A chip smaller than its area is seen there more than once. -/
def ramCell (history : History) (header : Header) (address : Nat) : Nat :=
  (history.ramBank header * ramBankSize + (address - 0xA000)) % header.ramSize

/-- Whether an access to an address gets to a cell. -/
def reaches (history : History) (header : Header) (address cell : Nat) : Bool :=
  between 0xA000 0xBFFF address && history.answers header && history.ramCell header address = cell

/-- What a history leaves in a cell: the last byte that was written to it since the memory was
replaced. -/
def content (header : Header) (cell : Nat) : History → Byte
  | [] => 0
  | .reset :: earlier => content header cell earlier
  | .restoreRam bytes :: earlier =>
    if bytes.size = header.ramSize then byteAt bytes cell else content header cell earlier
  | .write address value :: earlier =>
    if reaches earlier header address cell then header.mapper.kept (Byte.ofInt value)
    else content header cell earlier

end History

/-- A cartridge with a byte left in a cell of its external memory. -/
def setCell (k : Cartridge) (cell : Nat) (byte : Byte) : Cartridge :=
  { k with
    ram := k.ram.setIfInBounds cell byte
    ram_size := by rw [Array.size_setIfInBounds, k.ram_size] }

/-- A cartridge that answers as its history says. -/
structure Recalls (history : History) (header : Header) (k : Cartridge) : Prop where
  size : k.ram.size = header.ramSize
  gate
    : k.ramEnabled = true
      ↔ header.mapper = .romOnly
        ∨ ∃ value, history.latest? (History.isGate header.mapper) = some value
          ∧ value % 16 = 0x0A
  cells : ∀ cell < header.ramSize, byteAt k.ram cell = history.content header cell
  silent
    : history.answers header = false
      → ∀ address, History.between 0xA000 0xBFFF address
      → k.read address = 0xFF ∧ ∀ value, k.write address value = k
  answering
    : history.answers header
      → ∀ address, History.between 0xA000 0xBFFF address
      → history.ramCell header address < header.ramSize
        ∧ k.read address
          = header.mapper.shown (history.content header (history.ramCell header address))
        ∧ ∀ value, k.write address value
          = k.setCell (history.ramCell header address) (header.mapper.kept (Byte.ofInt value))

theorem History.answers_iff {history : History} {header : Header}
    : history.answers header = true
      ↔ header.ramSize ≠ 0 ∧ history.isOpen header.mapper = true
        ∧ ¬ (header.mapper = .mbc3 ∧ 3 < history.ramNumber header.mapper) := by
  grind [answers]

-----------------------------------------------------------------------------------------
-- Cells of a memory of whole banks
-----------------------------------------------------------------------------------------

namespace History

variable {header : Header} {address : Nat}

/-- Where external memory consists of whole banks, nothing of it is seen twice. -/
theorem ramCell_whole (history : History) (whole : ramBankSize ∣ header.ramSize)
    (some_ram : header.ramSize ≠ 0) (inside : between 0xA000 0xBFFF address)
    : history.ramCell header address = history.ramBank header * ramBankSize + (address - 0xA000)
      ∧ history.ramBank header < header.ramBanks := by
  obtain ⟨banks, size⟩ := whole
  have positive : 0 < banks := by
    rcases banks.eq_zero_or_pos with rfl | positive
    · exact absurd size some_ram
    · exact positive
  have count : header.ramBanks = banks := by
    rw [Header.ramBanks, if_neg some_ram, size, Nat.mul_div_cancel_left _ (by decide)]
    omega
  have selected : history.ramBank header < banks := by
    rw [ramBank, count]
    exact Nat.lt_of_lt_of_le (Nat.mod_lt _ (by omega)) (by omega)
  have offset : address - 0xA000 < ramBankSize := by
    have bounds := between_iff.mp inside
    simp only [ramBankSize]
    omega
  refine ⟨?_, count.symm ▸ selected⟩
  rw [ramCell, size]
  refine Nat.mod_eq_of_lt ?_
  calc history.ramBank header * ramBankSize + (address - 0xA000)
      < history.ramBank header * ramBankSize + ramBankSize := Nat.add_lt_add_left offset _
    _ = ramBankSize * (history.ramBank header + 1) := by rw [Nat.mul_comm, Nat.mul_succ]
    _ ≤ ramBankSize * banks := Nat.mul_le_mul_left _ selected

theorem ramCell_inj {history other : History} {place : Nat} (whole : ramBankSize ∣ header.ramSize)
    (some_ram : header.ramSize ≠ 0) (inside : between 0xA000 0xBFFF address)
    (within : between 0xA000 0xBFFF place)
    : history.ramCell header address = other.ramCell header place
      ↔ history.ramBank header = other.ramBank header ∧ address = place := by
  rw [(history.ramCell_whole whole some_ram inside).1, (other.ramCell_whole whole some_ram within).1]
  have bounds := between_iff.mp inside
  have bounds' := between_iff.mp within
  simp only [ramBankSize]
  omega

end History

-----------------------------------------------------------------------------------------
-- The gate and the bank registers
-----------------------------------------------------------------------------------------

variable {history : History} {k : Cartridge} {address : Address}

/-- A cartridge is as open, and has the bank of external memory selected, as a history says. -/
structure Selects (history : History) (k : Cartridge) : Prop extends Follows history k where
  gate : k.ramEnabled = history.isOpen k.mapper
  bank : k.mapper = .mbc3 ∨ k.mapper = .mbc5 → k.ramBankRegister = history.ramNumber k.mapper

namespace Selects

theorem fresh (k : Cartridge) : Selects [] k.reset where
  toFollows := Follows.fresh k
  gate := by
    rw [History.isOpen, History.latest?, Option.any_none, Bool.or_false]
    rfl
  bank kind := by
    rcases kind with kind | kind <;> rw [kind] <;> rfl

theorem control_gate (selects : Selects history k) (low : address.val < 0x8000) (value : Int)
    : (k.control address.val (Byte.ofInt value)).ramEnabled
      = History.isOpen (.write address value :: history) k.mapper := by
  have gate := selects.gate
  cases kind : k.mapper <;> rw [kind] at gate
    <;> simp only [control, kind, History.isOpen, History.latest?, History.isGate,
      History.between_iff, Bool.and_eq_true, Bool.not_eq_true', Nat.testBit_eq_decide_div_mod_eq,
      decide_eq_true_iff, decide_eq_false_iff_not, reduceCtorEq, if_true, if_false, decide_true,
      decide_false, Bool.true_or, Bool.false_or] at gate ⊢
  case romOnly => exact gate
  case mbc2 =>
    split
    · rw [if_neg (by omega)]
      exact gate
    split
    · rw [if_neg (by omega)]
      exact gate
    · rw [if_pos (by omega)]
      rfl
  all_goals
    split
    · rw [if_pos (by omega)]
      rfl
    · have beyond : ¬ (0 ≤ address.val ∧ address.val ≤ 0x1FFF) := by omega
      rw [if_neg beyond]
      repeat' split
      all_goals exact gate

theorem control_bank (selects : Selects history k) (kind : k.mapper = .mbc3 ∨ k.mapper = .mbc5)
    (value : Int)
    : (k.control address.val (Byte.ofInt value)).ramBankRegister
      = History.ramNumber (.write address value :: history) k.mapper := by
  have bank := selects.bank kind
  have mask := Nat.and_two_pow_sub_one_eq_mod (Byte.ofInt value).toNat 4
  rcases kind with kind | kind <;> rw [kind] at bank
    <;> simp only [control, kind, History.ramNumber, History.latest?, History.between_iff]
      at bank ⊢
  · split
    · rw [if_neg (by omega)]
      exact bank
    split
    · rw [if_neg (by omega)]
      exact bank
    split
    · rw [if_pos (by omega), Option.getD_some, mask]
      rfl
    · rw [if_neg (by omega)]
      exact bank
  · split
    · rw [if_neg (by omega)]
      exact bank
    split
    · rw [if_neg (by omega)]
      exact bank
    split
    · rw [if_neg (by omega)]
      exact bank
    split
    · rw [if_pos (by omega), Option.getD_some, mask]
      rfl
    · rw [if_neg (by omega)]
      exact bank

/-- Neither the gate nor the banks listen beyond the program area. -/
theorem above (selects : Selects history k) (high : 0x8000 ≤ address.val) (value : Int)
    : Selects (.write address value :: history) k where
  toFollows := selects.toFollows.above high value
  gate := by
    have outside : History.isGate k.mapper address.val = false := by
      rw [History.isGate]
      split
      · rw [decide_eq_false (by omega), Bool.false_and]
      · exact decide_eq_false (by omega)
    rw [selects.gate, History.isOpen, History.isOpen, History.latest?, outside]
    rfl
  bank kind := by
    have outside : History.between 0x4000 0x5FFF address.val = false := decide_eq_false (by omega)
    rw [selects.bank kind]
    rcases kind with kind | kind
      <;> rw [kind, History.ramNumber, History.ramNumber, History.latest?, outside]
      <;> rfl

theorem replaceRam (selects : Selects history k) {ram : Bytes} (size : ram.size = k.header.ramSize)
    : Selects history { k with ram, ram_size := size } where
  toFollows := selects.toFollows.replaceRam size
  gate := selects.gate
  bank := selects.bank

theorem ramBank (selects : Selects history k) : k.ramBank = history.ramBank k.header := by
  have same : k.header.mapper = k.mapper := rfl
  have bank := selects.bank
  rw [Cartridge.ramBank, History.ramBank, same, Int.natCast_emod, ramBankCount]
  cases kind : k.mapper <;> rw [kind] at bank <;> dsimp only [History.ramNumber] at bank ⊢
  case mbc1 =>
    have mode : history.mode = 0 ∨ history.mode = 1 := Nat.mod_two_eq_zero_or_one _
    rw [selects.upper kind, selects.mode kind]
    rcases mode with mode | mode <;> rw [mode] <;> rfl
  case mbc3 => rw [bank (.inl rfl)]
  case mbc5 => rw [bank (.inr rfl)]
  all_goals rfl

/-- The circuit gets to the cell that the history says, and to none where it says so. -/
theorem ramCell? (selects : Selects history k) (place : Nat)
    : k.ramCell? (place - 0xA000)
      = if history.answers k.header then some (history.ramCell k.header place) else none := by
  have same : k.header.mapper = k.mapper := rfl
  have beyond : k.mapper = .mbc3 ∧ k.ramBankRegister > 3
      ↔ k.mapper = .mbc3 ∧ 3 < history.ramNumber k.mapper := by
    refine and_congr_right fun kind => ?_
    rw [selects.bank (.inl kind)]
    exact Int.ofNat_lt
  have alone : k.mapper = .mbc2 → history.ramBank k.header = 0 := by
    intro kind
    rw [History.ramBank, same, kind]
    exact Nat.zero_mod _
  rw [Cartridge.ramCell?, k.ram_size, selects.gate, selects.ramBank, Int.toNat_natCast]
  by_cases answering : history.answers k.header = true
  · obtain ⟨present, opened, chosen⟩ := History.answers_iff.mp answering
    rw [if_pos answering, if_neg (by simp [present, ← same, opened]), if_neg (mt beyond.mp chosen),
      History.ramCell]
    split
    case isTrue kind => rw [alone kind, Nat.zero_mul, Nat.zero_add]
    case isFalse => rfl
  · rw [if_neg answering]
    split
    · rfl
    case isFalse opened =>
    split
    · rfl
    case isFalse chosen =>
      simp only [not_or, Bool.not_eq_true', Bool.not_eq_false] at opened
      exact absurd (History.answers_iff.mpr ⟨opened.1, opened.2, mt beyond.mpr chosen⟩) answering

theorem perform (selects : Selects history k) (act : Act)
    : Selects (act :: history) (k.perform act) := by
  have follows := selects.toFollows.perform act
  cases act with
  | write address value =>
      rw [Cartridge.perform, Cartridge.write] at follows ⊢
      split
      case isTrue low =>
        rw [if_pos low] at follows
        have same := congrArg Header.mapper (k.control_header address.val (Byte.ofInt value)).1
        refine { follows with gate := ?_, bank := fun kind => ?_ } <;> rw [mapper, same] at *
        · exact selects.control_gate (by omega) value
        · exact selects.control_bank kind value
      case isFalse high =>
        have beyond : 0x8000 ≤ address.val := by omega
        have above := selects.above beyond value
        split
        · rw [writeRam]
          split
          · exact above
          · exact above.replaceRam _
        · exact above
  | restoreRam bytes =>
      rw [Cartridge.perform]
      split
      case h_1 restored ok =>
        obtain ⟨size, rfl⟩ := restoreRam_ok ok
        exact { selects with toFollows := { selects.toFollows with } }
      case h_2 => exact { selects with toFollows := { selects.toFollows with } }
  | reset => exact { fresh k with toFollows := .reset k history }

end Selects

-----------------------------------------------------------------------------------------
-- What the cells hold
-----------------------------------------------------------------------------------------

theorem ramOffset?_inside {place : Nat} (inside : History.between 0xA000 0xBFFF place)
    : ramOffset? place = some (place - 0xA000) := by
  have bounds := History.between_iff.mp inside
  rw [ramOffset?, if_pos (by omega)]
  exact congrArg some (by omega)

/-- What an address of external memory shows. -/
theorem Selects.read (selects : Selects history k) {place : Nat}
    (inside : History.between 0xA000 0xBFFF place)
    : k.read place
      = if history.answers k.header then
          k.mapper.shown (byteAt k.ram (history.ramCell k.header place))
        else openBus := by
  have bounds := History.between_iff.mp inside
  rw [Cartridge.read, if_neg (by omega), ramOffset?_inside inside, Option.map_some, Option.getD_some,
    readRam, selects.ramCell?]
  by_cases answering : history.answers k.header = true
  · rw [if_pos answering, if_pos answering]
    rfl
  · rw [if_neg answering, if_neg answering]

/-- What a write to an address of external memory does. -/
theorem Selects.write (selects : Selects history k) {place : Nat}
    (inside : History.between 0xA000 0xBFFF place) (value : Int)
    : k.write place value
      = if history.answers k.header then
          k.setCell (history.ramCell k.header place) (k.mapper.kept (Byte.ofInt value))
        else k := by
  have bounds := History.between_iff.mp inside
  rw [Cartridge.write, if_neg (by omega), ramOffset?_inside inside]
  dsimp only
  rw [writeRam, selects.ramCell?]
  by_cases answering : history.answers k.header = true
  · rw [if_pos answering, if_pos answering]
    rfl
  · rw [if_neg answering, if_neg answering]

theorem byteAt_set {bytes : Bytes} {cell place : Nat} (inside : place < bytes.size) (byte : Byte)
    : byteAt (bytes.setIfInBounds cell byte) place
      = if cell = place then byte else byteAt bytes place := by
  rw [byteAt, byteAt, Array.getElem?_setIfInBounds]
  split
  case isTrue same => rw [if_pos (same ▸ inside), Option.getD_some]
  case isFalse => rfl

/-- A cartridge has in every cell what a history leaves there. -/
structure Remembers (history : History) (k : Cartridge) : Prop extends Selects history k where
  cells : ∀ cell < k.header.ramSize, byteAt k.ram cell = history.content k.header cell

namespace Remembers

theorem control_ram (k : Cartridge) (address : Int) (value : Byte)
    : (k.control address value).ram = k.ram := by
  rw [control]
  cases k.mapper <;> dsimp only
  all_goals repeat' split
  all_goals rfl

theorem perform (remembers : Remembers history k) (act : Act)
    : Remembers (act :: history) (k.perform act) := by
  have header := (perform_header k act).1
  refine { remembers.toSelects.perform act with cells := ?_ }
  rw [header]
  intro cell stored
  have cells := remembers.cells cell stored
  cases act with
  | reset => exact cells
  | restoreRam bytes =>
      rw [Cartridge.perform, restoreRam, History.content, ← k.ram_size]
      split
      case h_1 restored ok =>
        split at ok
        case isTrue fits =>
          obtain rfl := Except.ok.inj ok
          rw [if_pos fits]
        case isFalse => cases ok
      case h_2 ok =>
        split at ok
        case isTrue => cases ok
        case isFalse misfit => rw [if_neg misfit, cells]
  | write address value =>
      rw [Cartridge.perform, History.content, History.reaches]
      by_cases inside : History.between 0xA000 0xBFFF address.val
      · rw [remembers.toSelects.write inside]
        by_cases answering : history.answers k.header
        · rw [if_pos answering, inside, answering, Bool.true_and, Bool.true_and, setCell,
            byteAt_set (k.ram_size ▸ stored)]
          simp only [decide_eq_true_iff, cells]
          rfl
        · rw [if_neg answering, inside, Bool.eq_false_iff.mpr answering, Bool.and_false,
            Bool.false_and, if_neg Bool.false_ne_true, cells]
      · -- Outside the area of external memory a write reaches no cell.
        rw [Bool.eq_false_iff.mpr inside, Bool.false_and, Bool.false_and,
          if_neg Bool.false_ne_true, ← cells, Cartridge.write]
        split
        · rw [control_ram]
        · have outside : ramOffset? address.val = none := by
            have bounds := mt History.between_iff.mpr inside
            exact if_neg (by omega)
          rw [outside]

end Remembers

theorem ofImage_remembers {image : Bytes} (inserted : ofImage image = .ok k)
    : Remembers [] k := by
  obtain ⟨parsed, rfl, new⟩ := ofImage_eq inserted
  refine { new ▸ Selects.fresh k with cells := fun cell stored => ?_ }
  have blank : k.ram = Array.replicate k.header.ramSize 0 := by
    simp only [ofImage, parsed, bind, Except.bind] at inserted
    split at inserted
    · exact Except.ok.inj inserted ▸ rfl
    · cases inserted
  rw [blank, byteAt, Array.getElem?_replicate, if_pos stored]
  rfl

theorem replay_remembers (remembers : Remembers [] k) (history : History)
    : Remembers history (history.replay k) := by
  induction history with
  | nil => exact remembers
  | cons act earlier ih => exact ih.perform act

theorem Remembers.recalls (remembers : Remembers history k) : Recalls history k.header k where
  size := k.ram_size
  gate := by
    rw [remembers.gate, History.isOpen, Bool.or_eq_true, decide_eq_true_iff, Option.any_eq_true]
    simp only [decide_eq_true_iff]
    rfl
  cells := remembers.cells
  silent := by
    intro silent address inside
    have shut : ¬ history.answers k.header = true := Bool.eq_false_iff.mp silent
    refine ⟨?_, fun value => ?_⟩
    · rw [remembers.toSelects.read inside, if_neg shut]
    · rw [remembers.toSelects.write inside, if_neg shut]
  answering := by
    intro answering address inside
    have some_ram : 0 < k.header.ramSize := Nat.pos_of_ne_zero (History.answers_iff.mp answering).1
    have cell : history.ramCell k.header address < k.header.ramSize := Nat.mod_lt _ some_ram
    refine ⟨cell, ?_, fun value => ?_⟩
    · rw [remembers.toSelects.read inside, if_pos answering, remembers.cells _ cell]
      rfl
    · rw [remembers.toSelects.write inside, if_pos answering]
      rfl

/-- Whatever is written to a cartridge, and however often its memory is replaced or its circuit is
reset, external memory keeps its length and answers as the history says. Where it consists of whole
banks, two addresses get to one cell only where both the bank and the address are the same.
-/
theorem replay_recalls {image : Bytes} (inserted : ofImage image = .ok k) (history : History)
    : (history.replay k).header = k.header ∧ Recalls history k.header (history.replay k)
      ∧ (ramBankSize ∣ k.header.ramSize
        → k.header.ramSize ≠ 0
        → ∀ (other : History) (address place : Nat), History.between 0xA000 0xBFFF address
        → History.between 0xA000 0xBFFF place
        → (history.ramCell k.header address = other.ramCell k.header place
          ↔ history.ramBank k.header = other.ramBank k.header ∧ address = place)) := by
  have header := (replay_header history k).1
  have recalls := (replay_remembers (ofImage_remembers inserted) history).recalls
  refine ⟨header, header ▸ recalls, ?_⟩
  intro whole some_ram other address place inside within
  exact History.ramCell_inj whole some_ram inside within

/-- An image for a board whose external memory is a quarter of a bank. -/
def smallImage : Bytes :=
  Array.ofFn fun place : Fin 0x8000 =>
    if place.val = 0x147 then 3 else if place.val = 0x149 then 1 else 0

theorem exists_small
    : ∃ k, ofImage smallImage = .ok k ∧ k.header.mapper = .mbc1 ∧ k.header.ramSize = 0x800
        ∧ k.header.romBanks = 2 := by
  have size : smallImage.size = 0x8000 := Array.size_ofFn
  have byte {place : Nat} (inside : place < 0x8000) : byteAt smallImage place
      = if place = 0x147 then 3 else if place = 0x149 then 1 else 0 := by
    rw [byteAt, smallImage, Array.getElem?_ofFn, dif_pos inside, Option.getD_some]
  refine exists_ofImage
    (fun header => header.mapper = .mbc1 ∧ header.ramSize = 0x800 ∧ header.romBanks = 2) ?_
  rw [Header.parse, byte (by decide), byte (by decide), byte (by decide),
    if_neg (by rw [size]; decide), size]
  exact ⟨_, rfl, rfl, rfl, rfl, rfl⟩

/-- A small chip is seen again beyond its end. A reset closes it, and what it holds stays there. -/
theorem replay_recalls_small
    : ∃ k, ofImage smallImage = .ok k
        ∧ let history : History := [.write 0xA801 0x155, .write 0x1FFF 0xFA, .write 0xA001 0x33]
          (history.replay k).read 0xA001 = 0x55
          ∧ (History.replay (.reset :: history) k).read 0xA001 = 0xFF
          ∧ byteAt (History.replay (.reset :: history) k).ram 1 = 0x55 := by
  obtain ⟨k, inserted, mapper, ram, _⟩ := exists_small
  have recalls (history : History) := (replay_recalls inserted history).2.1
  have cell (history : History) (place : Nat)
      : history.ramCell k.header place = (place - 0xA000) % 0x800 := by
    have bank : history.ramBank k.header = 0 := by
      rw [History.ramBank, Header.ramBanks, ram]
      exact Nat.mod_one _
    rw [History.ramCell, bank, ram, Nat.zero_mul, Nat.zero_add]
  have answers (history : History) : history.answers k.header = history.isOpen .mbc1 := by
    rw [History.answers, mapper, ram]
    exact Bool.and_true _
  have content : History.content k.header 1
      [.write 0xA801 0x155, .write 0x1FFF 0xFA, .write 0xA001 0x33] = 0x55 := by
    rw [History.content, History.reaches, answers, cell, if_pos (by decide), mapper]
    decide
  refine ⟨k, inserted, ?_, ?_, ?_⟩
  · have answering : History.answers [.write 0xA801 0x155, .write 0x1FFF 0xFA, .write 0xA001 0x33]
        k.header = true := (answers _).trans (by decide)
    obtain ⟨_, shown, _⟩ := (recalls _).answering answering 0xA001 (by decide)
    rw [cell, mapper] at shown
    exact shown.trans content
  · exact ((recalls _).silent ((answers _).trans (by decide)) 0xA001 (by decide)).1
  · exact ((recalls _).cells 1 (by rw [ram]; decide)).trans content

end Cartridge

end Handheld
