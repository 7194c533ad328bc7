import Handheld.Proofs.Cartridge.ExternalRam

/-! Which images make a cartridge.
An image is asked for five things in a fixed order, and the first one that it lacks is the reason of
its refusal. A cartridge that comes about has the memories that its header promises.
-/

namespace Handheld.Cartridge

/-- What an image is asked for. -/
inductive Demand
  | header
  | type
  | romCode
  | ramCode
  | size
  deriving DecidableEq, Repr

/-- The image disagrees with its header. The one other reason of a refusal is a board that is not
supported.
-/
def Refusal.isMismatch : Refusal → Bool
  | .unsupportedType _ => false
  | .tooSmall _ | .unknownRomCode _ | .unknownRamCode _ | .sizeMismatch _ _ => true

namespace Demand

/-- All demands in the order in which they are made. -/
def all : List Demand := [.header, .type, .romCode, .ramCode, .size]

/-- The demands made before another one. -/
def earlier (demand : Demand) : List Demand :=
  all.takeWhile (· ≠ demand)

/-- An image meets a demand. -/
def Met (image : Bytes) : Demand → Prop
  | .header => 0x150 ≤ image.size
  | .type => ∃ code ∈ image[0x147]?, (board? code).isSome
  | .romCode => ∃ code ∈ image[0x148]?, code.toNat ≤ 8
  | .ramCode => ∃ code ∈ image[0x149]?, (ramSize? code).isSome
  | .size => ∃ code ∈ image[0x148]?, image.size = (2 <<< code.toNat) * 0x4000

/-- The demand is the first one that an image lacks. -/
def FirstUnmet (image : Bytes) (demand : Demand) : Prop :=
  ¬ demand.Met image ∧ ∀ other ∈ demand.earlier, other.Met image

/-- The refusal of an image that lacks something. -/
def refusal (image : Bytes) : Demand → Refusal
  | .header => .tooSmall image.size
  | .type => .unsupportedType (byteAt image 0x147)
  | .romCode => .unknownRomCode (byteAt image 0x148)
  | .ramCode => .unknownRamCode (byteAt image 0x149)
  | .size => .sizeMismatch image.size (2 <<< (byteAt image 0x148).toNat)

end Demand

/-- A cartridge has what the header of its image promises. Whatever its registers and its memory hold
by then, it answers at its own addresses, and so does a machine that it is built into.
-/
structure Outfitted (image : Bytes) (k : Cartridge) : Prop where
  banks : ∃ code ∈ image[0x148]?, k.header.romBanks = 2 <<< code.toNat
  ram : ∃ code ∈ image[0x147]?, ∃ board ∈ board? code,
    ∃ ramCode ∈ image[0x149]?, ∃ declared ∈ ramSize? ramCode,
      k.ram.size
        = if board.mapper = .mbc2 then 512 else if board.hasRam then declared else 0
  answers : ∀ later : Cartridge, later.header = k.header →
    ∀ address, later.read? address = some (later.read address)
  reads : ∀ m : Memory, m.build = k.build → ∀ (interrupts : Interrupts) (address : Address),
    address.val < 0x8000 ∨ 0xA000 ≤ address.val ∧ address.val < 0xC000 →
      m.owner address.val = .cartridge
      ∧ m.read? address.val interrupts = some (m.read address.val interrupts)

-----------------------------------------------------------------------------------------
-- Reading a header
-----------------------------------------------------------------------------------------

variable {image : Bytes} {k : Cartridge}

/-- A byte in front of the end of the header is one of the image. -/
theorem getElem?_byteAt (room : 0x150 ≤ image.size) {place : Nat} (inside : place < 0x150)
    : image[place]? = some (byteAt image place) := by
  rw [byteAt, Array.getElem?_eq_getElem (by omega), Option.getD_some]

theorem romBanks?_eq_some {code : Byte} (small : code.toNat ≤ 8)
    : romBanks? code = some (2 <<< code.toNat) :=
  if_pos small

/-- A header that meets all demands but the last is accepted. -/
theorem Header.parse_ok {board : Board} {declared : Nat} (room : 0x150 ≤ image.size)
    (type : board? (byteAt image 0x147) = some board) (rom : (byteAt image 0x148).toNat ≤ 8)
    (ram : ramSize? (byteAt image 0x149) = some declared)
    : ∃ header, parse image = .ok header
        ∧ header.romBanks = 2 <<< (byteAt image 0x148).toNat
        ∧ header.ramSize
          = if board.mapper = .mbc2 then 512 else if board.hasRam then declared else 0 := by
  rw [parse, if_neg (by omega)]
  simp only [type, romBanks?_eq_some rom, ram]
  exact ⟨_, rfl, rfl, rfl⟩

namespace Demand

/-- In an image with room for a header the other demands are about bytes that are there. -/
theorem met_iff (room : 0x150 ≤ image.size)
    : (type.Met image ↔ (board? (byteAt image 0x147)).isSome)
        ∧ (romCode.Met image ↔ (byteAt image 0x148).toNat ≤ 8)
        ∧ (ramCode.Met image ↔ (ramSize? (byteAt image 0x149)).isSome)
        ∧ (size.Met image ↔ image.size = (2 <<< (byteAt image 0x148).toNat) * 0x4000) := by
  simp only [Met, getElem?_byteAt room (by decide : 0x147 < 0x150),
    getElem?_byteAt room (by decide : 0x148 < 0x150),
    getElem?_byteAt room (by decide : 0x149 < 0x150), Option.mem_def, Option.some.injEq,
    exists_eq_left', and_self]

/-- An image meets all demands, or there is a first one that it lacks. -/
theorem met_or_firstUnmet (image : Bytes)
    : (∀ demand : Demand, demand.Met image) ∨ ∃ demand : Demand, demand.FirstUnmet image := by
  by_cases header : header.Met image
  case neg => exact .inr ⟨_, header, by simp [earlier, all]⟩
  by_cases type : type.Met image
  case neg => exact .inr ⟨_, type, by simpa [earlier, all] using header⟩
  by_cases romCode : romCode.Met image
  case neg => exact .inr ⟨_, romCode, by simpa [earlier, all] using ⟨header, type⟩⟩
  by_cases ramCode : ramCode.Met image
  case neg => exact .inr ⟨_, ramCode, by simpa [earlier, all] using ⟨header, type, romCode⟩⟩
  by_cases size : size.Met image
  case neg =>
      exact .inr ⟨_, size, by simpa [earlier, all] using ⟨header, type, romCode, ramCode⟩⟩
  refine .inl fun demand => ?_
  cases demand <;> assumption

/-- An image is refused for the first thing that it lacks. -/
theorem FirstUnmet.refused {demand : Demand} (first : demand.FirstUnmet image)
    : ofImage image = .error (demand.refusal image) := by
  obtain ⟨unmet, met⟩ := first
  cases demand with
  | header =>
      have small : image.size < 0x150 := Nat.lt_of_not_le unmet
      rw [ofImage, Header.parse, if_pos small]
      rfl
  | type =>
      have room : 0x150 ≤ image.size := met .header (by decide)
      have unknown : board? (byteAt image 0x147) = none := by
        rw [(met_iff room).1] at unmet
        simpa using unmet
      rw [ofImage, Header.parse, if_neg (by omega)]
      simp only [unknown]
      rfl
  | romCode =>
      have room : 0x150 ≤ image.size := met .header (by decide)
      obtain ⟨board, type⟩ := Option.isSome_iff_exists.mp ((met_iff room).1.mp (met .type (by decide)))
      have unknown : romBanks? (byteAt image 0x148) = none :=
        if_neg (mt (met_iff room).2.1.mpr unmet)
      rw [ofImage, Header.parse, if_neg (by omega)]
      simp only [type, unknown]
      rfl
  | ramCode =>
      have room : 0x150 ≤ image.size := met .header (by decide)
      obtain ⟨board, type⟩ := Option.isSome_iff_exists.mp ((met_iff room).1.mp (met .type (by decide)))
      have rom := (met_iff room).2.1.mp (met .romCode (by decide))
      have unknown : ramSize? (byteAt image 0x149) = none := by
        rw [(met_iff room).2.2.1] at unmet
        simpa using unmet
      rw [ofImage, Header.parse, if_neg (by omega)]
      simp only [type, romBanks?_eq_some rom, unknown]
      rfl
  | size =>
      have room : 0x150 ≤ image.size := met .header (by decide)
      obtain ⟨board, type⟩ := Option.isSome_iff_exists.mp ((met_iff room).1.mp (met .type (by decide)))
      have rom := (met_iff room).2.1.mp (met .romCode (by decide))
      obtain ⟨declared, ram⟩ :=
        Option.isSome_iff_exists.mp ((met_iff room).2.2.1.mp (met .ramCode (by decide)))
      obtain ⟨header, parsed, banks, _⟩ := Header.parse_ok room type rom ram
      have differs : image.size ≠ header.romSize := by
        rw [Header.romSize, banks]
        exact mt (met_iff room).2.2.2.mpr unmet
      rw [ofImage, parsed, refusal, ← banks]
      exact dif_neg differs

end Demand

-----------------------------------------------------------------------------------------
-- Cartridges that come about
-----------------------------------------------------------------------------------------

/-- The program area and the area of external memory are the cartridge's. -/
theorem owner_cartridge (m : Memory) {address : Address}
    (own : address.val < 0x8000 ∨ 0xA000 ≤ address.val ∧ address.val < 0xC000)
    : m.owner address.val = .cartridge := by
  rw [Memory.owner]
  rcases own with program | ⟨low, high⟩
  · exact if_pos (by omega)
  · rw [if_neg (by omega), if_neg (by omega)]
    exact if_pos (by omega)

/-- An image that meets all demands makes a cartridge. -/
theorem ofImage_of_met (met : ∀ demand : Demand, demand.Met image)
    : ∃ k, ofImage image = .ok k := by
  have room : 0x150 ≤ image.size := met .header
  obtain ⟨type, rom, ram, size⟩ := Demand.met_iff room
  obtain ⟨board, typed⟩ := Option.isSome_iff_exists.mp (type.mp (met .type))
  obtain ⟨declared, sized⟩ := Option.isSome_iff_exists.mp (ram.mp (met .ramCode))
  obtain ⟨header, parsed, banks, _⟩ := Header.parse_ok room typed (rom.mp (met .romCode)) sized
  have fits : image.size = header.romSize := by
    rw [Header.romSize, banks]
    exact size.mp (met .size)
  exact ofImage_ok parsed fits

/-- An image that makes a cartridge meets all demands, since it is not refused for any of them. -/
theorem met_of_ofImage (inserted : ofImage image = .ok k) (demand : Demand) : demand.Met image := by
  rcases Demand.met_or_firstUnmet image with met | ⟨first, unmet⟩
  · exact met demand
  · rw [unmet.refused] at inserted
    cases inserted

theorem ofImage_outfitted (inserted : ofImage image = .ok k) : Outfitted image k := by
  have met := met_of_ofImage inserted
  have room : 0x150 ≤ image.size := met .header
  obtain ⟨type, rom, ram, _⟩ := Demand.met_iff room
  obtain ⟨board, typed⟩ := Option.isSome_iff_exists.mp (type.mp (met .type))
  obtain ⟨declared, sized⟩ := Option.isSome_iff_exists.mp (ram.mp (met .ramCode))
  obtain ⟨header, parsed, banks, stored⟩ := Header.parse_ok room typed (rom.mp (met .romCode)) sized
  have own := (ofImage_eq inserted).1
  obtain rfl : k.header = header := Except.ok.inj (own.symm.trans parsed)
  have banked : 0 < k.header.romBanks := Nat.zero_lt_of_lt (Header.parse_banks own)
  exact {
    banks := ⟨_, getElem?_byteAt room (by decide), banks⟩
    ram := ⟨_, getElem?_byteAt room (by decide), board, typed, _, getElem?_byteAt room (by decide),
      declared, sized, k.ram_size.trans stored⟩
    answers := fun later same address => read?_eq (same ▸ banked) address
    reads := fun m built interrupts address inside =>
      ⟨owner_cartridge m inside,
        Memory.read?_eq (built ▸ build_standard inserted) address.val interrupts⟩ }

/-- An image makes a cartridge if and only if it has room for a header, a supported type, known codes
of both sizes, and the size that its header declares. Otherwise it is refused for the first of these
that it lacks. A cartridge that comes about is outfitted as its header says.
-/
theorem ofImage_judged (image : Bytes)
    : ((∃ k, ofImage image = .ok k) ↔ ∀ demand : Demand, demand.Met image)
      ∧ (∀ refusal, ofImage image = .error refusal
          ↔ ∃ demand : Demand, demand.FirstUnmet image ∧ demand.refusal image = refusal)
      ∧ (∀ demand : Demand, (demand.refusal image).isMismatch = true ↔ demand ≠ .type)
      ∧ ∀ k, ofImage image = .ok k → Outfitted image k := by
  refine ⟨⟨fun ⟨k, inserted⟩ => met_of_ofImage inserted, ofImage_of_met⟩, fun refusal => ?_, ?_,
    fun k inserted => ofImage_outfitted inserted⟩
  · constructor
    · intro refused
      rcases Demand.met_or_firstUnmet image with met | ⟨demand, first⟩
      · obtain ⟨k, inserted⟩ := ofImage_of_met met
        cases refused.symm.trans inserted
      · exact ⟨demand, first, Except.error.inj (first.refused.symm.trans refused)⟩
    · rintro ⟨demand, first, rfl⟩
      exact first.refused
  · intro demand
    cases demand <;> simp [Demand.refusal, Refusal.isMismatch]

/-- A board with a quarter of a bank is outfitted. An image with more than one fault is refused for
its type, which is looked at before the codes of its sizes.
-/
theorem ofImage_judged_twice
    : (∃ k, ofImage smallImage = .ok k ∧ Outfitted smallImage k)
        ∧ ofImage (Array.replicate 0x150 0xFF) = .error (.unsupportedType 0xFF) := by
  constructor
  · obtain ⟨k, inserted, _⟩ := exists_small
    exact ⟨k, inserted, (ofImage_judged smallImage).2.2.2 k inserted⟩
  · apply ((ofImage_judged _).2.1 _).mpr
    have byte : byteAt (Array.replicate 0x150 0xFF) 0x147 = 0xFF := by simp [byteAt]
    have room : Demand.Met (Array.replicate 0x150 0xFF) .header := by simp [Demand.Met]
    refine ⟨.type, ⟨?_, by simpa [Demand.earlier, Demand.all] using room⟩, ?_⟩
    · rw [(Demand.met_iff room).1, byte]
      decide
    · rw [Demand.refusal, byte]

end Handheld.Cartridge
