import Handheld.Proofs.Console.RoundTrip
import Handheld.Proofs.Memory.Routing
import Handheld.Proofs.Memory.Steady

/-! Consoles that no bundle of foreign origin has been loaded into.
A host may do with them whatever it likes between two steps, and load what others of their kind have
saved. They never hold anything that the hardware could not hold.
-/

namespace Handheld

-----------------------------------------------------------------------------------------
-- What an image declares
-----------------------------------------------------------------------------------------

namespace Cartridge

theorem romBanks?_two {code : Byte} {banks : Nat} (known : romBanks? code = some banks)
    : 2 ≤ banks := by
  rw [romBanks?] at known
  split at known
  · obtain rfl := Option.some.inj known
    rw [Nat.shiftLeft_eq]
    exact Nat.le_mul_of_pos_right 2 (Nat.two_pow_pos _)
  · cases known

/-- An image whose header is accepted has room for it, a type and two codes of sizes that are known,
and its header says what they stand for. -/
theorem Header.exists_of_parse {image : Bytes} {header : Header} (parsed : parse image = .ok header)
    : 0x150 ≤ image.size
        ∧ ∃ board banks declared,
          board? (byteAt image 0x147) = some board
          ∧ romBanks? (byteAt image 0x148) = some banks
          ∧ ramSize? (byteAt image 0x149) = some declared
          ∧ header = {
              title := readTitle image
              typeCode := byteAt image 0x147
              mapper := board.mapper
              romBanks := banks
              ramSize :=
                if board.mapper = .mbc2 then 0x200 else if board.hasRam then declared else 0
              battery := board.battery
              headerChecksum := byteAt image 0x14D
              globalChecksum := byteAt image 0x14E ++ byteAt image 0x14F
              checksumValid := checksumOf image = byteAt image 0x14D } := by
  simp only [parse, bind, Except.bind] at parsed
  split at parsed
  case isTrue => cases parsed
  case isFalse room =>
  split at parsed
  case h_2 => cases parsed
  case h_1 board typed =>
  split at parsed
  case h_2 => cases parsed
  case h_1 banks banked =>
  split at parsed
  case h_2 => cases parsed
  case h_1 declared stored =>
  exact ⟨Nat.le_of_not_lt room, board, banks, declared, typed, banked, stored,
    (Except.ok.inj parsed).symm⟩

/-- A header that is accepted declares two banks of program memory at least. -/
theorem Header.parse_banks {image : Bytes} {header : Header} (parsed : parse image = .ok header)
    : 2 ≤ header.romBanks := by
  obtain ⟨_, _, _, _, _, banked, _, rfl⟩ := exists_of_parse parsed
  exact romBanks?_two banked

/-- A cartridge has the image that it was made of, the header of that image, and the registers that
a reset leaves behind. -/
theorem ofImage_eq {image : Bytes} {k : Cartridge} (inserted : ofImage image = .ok k)
    : Header.parse image = .ok k.header ∧ k.rom = image ∧ k.reset = k := by
  cases parsed : Header.parse image with
  | error refusal =>
      rw [ofImage, parsed] at inserted
      cases inserted
  | ok header =>
      simp only [ofImage, parsed, bind, Except.bind] at inserted
      split at inserted
      · obtain rfl := Except.ok.inj inserted
        exact ⟨rfl, rfl, rfl⟩
      · cases inserted

/-- A memory with an accepted cartridge has standard windows and banks. -/
theorem build_standard {image : Bytes} {k : Cartridge} (inserted : ofImage image = .ok k)
    : k.build.Standard where
  banks := Nat.zero_lt_of_lt (Header.parse_banks (ofImage_eq inserted).1)
  vram := rfl
  oam := rfl
  audio := rfl
  video := rfl

end Cartridge

/-- The lengths of all memories behind the bus but the image. -/
def Memory.lengths (m : Memory) : List Nat :=
  [m.wram.toArray.size, m.hram.toArray.size, m.peripherals.vram.data.toArray.size,
    m.peripherals.oam.data.toArray.size, m.peripherals.audio.data.toArray.size,
    m.peripherals.video.data.toArray.size, m.cartridge.ram.size]

namespace Console

-----------------------------------------------------------------------------------------
-- What turns cannot break
-----------------------------------------------------------------------------------------

/-- A console of a build, with registers and devices that hold what the hardware can hold. -/
def Steady (build : Memory.Build) (c : Console) : Prop :=
  c.core.Within fun around => around.2.Steady build

namespace Steady

variable {build : Memory.Build} {c d : Console}

theorem sound (steady : c.Steady build) : c.Sound build := ⟨steady.inRange, steady.around.build⟩

theorem step (steady : c.Steady build) : c.step.2.Steady build :=
  step_within (Memory.bus_keeps_steady build)
    (fun within cycles =>
      ⟨within.inRange, { within.around with phase := within.around.phase.tick cycles _ }⟩)
    steady

/-- No turn breaks a console, except that a load may. -/
theorem play (steady : c.Steady build) {turn : Turn} (own : ∀ saved, turn ≠ .load saved)
    : (c.play turn).2.Steady build := by
  cases turn with
  | step => exact steady.step
  | read address => exact ⟨steady.inRange, { steady.around with }⟩
  | write address value =>
      exact ⟨steady.inRange, steady.around.write address value c.interrupts⟩
  | press key | release key | releaseAll => exact ⟨steady.inRange, { steady.around with }⟩
  | reset => exact ⟨Cpu.Registers.powerOn_inRange, .powerOn steady.around.build⟩
  | load saved => exact absurd rfl (own saved)
  | interrupt source | requestStop => exact ⟨steady.inRange, steady.around⟩

theorem run (steady : c.Steady build) (limits : Limits) : (c.run limits).2.Steady build :=
  runFrom_keeps Steady.step (fun steady => ⟨steady.inRange, steady.around⟩) limits _ 0 steady

/-- A load of what another one has saved, with a fault or without, makes the same machine without
a fault.
-/
theorem load_agrees {cartridge : Cartridge} {created : String} {bundle : Bundle}
    (saving : c.Steady cartridge.build) (loading : d.Steady cartridge.build)
    (saved : c.save created = .ok bundle)
    : ∃ d', (Console.load (some bundle)).perform d = (.ok (), d')
        ∧ ({ c with fault := none } : Console).Agrees d' := by
  -- Saving takes no notice of a fault.
  let running : Console := { c with fault := none }
  have sound : running.Sound cartridge.build := ⟨saving.inRange, saving.around.build⟩
  obtain ⟨bytes, registers, packs, unpacks, same⟩ := Cpu.Snapshot.unpack_pack sound.inRange
  obtain rfl := Except.ok.inj (saved.symm.trans (save_ok (c := running) packs created))
  obtain ⟨d', ran, agrees⟩ := runAll_stages sound loading.sound rfl created bytes same
  have looked := inspect_saved sound loading.sound created unpacks
  exact ⟨d', (load_found looked).trans ran, agrees⟩

/-- A load of what another one has saved does not break a console. Witness: the machine that comes
back agrees with the one that was saved.
-/
theorem load {cartridge : Cartridge} {created : String} {bundle : Bundle}
    (saving : c.Steady cartridge.build) (loading : d.Steady cartridge.build)
    (saved : c.save created = .ok bundle)
    : ((Console.load (some bundle)).perform d).2.Steady cartridge.build := by
  obtain ⟨d', loaded, agrees⟩ := saving.load_agrees loading saved
  have after := loading.sound.play (.load (some bundle))
  rw [Console.play, loaded] at after
  rw [loaded]
  exact ⟨after.inRange, saving.around.of_agrees agrees.memory after.build⟩

end Steady

/-- A new console is steady. -/
theorem ofCartridge_steady {cartridge : Cartridge} {settings : Settings}
    {wishes : Settings.Wishes} {c : Console} (built : ofCartridge cartridge settings wishes = .ok c)
    : c.Steady cartridge.build := by
  obtain ⟨new, core, build⟩ := ofCartridge_core built
  rw [Steady, core]
  exact ⟨Cpu.Registers.powerOn_inRange, .powerOn build⟩

-----------------------------------------------------------------------------------------
-- Consoles of honest origin
-----------------------------------------------------------------------------------------

/-- The consoles that come of an image without bundles that anyone has made up: new ones, and
whatever becomes of them if they load only what others of them have saved.
-/
inductive Genuine (image : Bytes) : Console → Prop
  | built {cartridge : Cartridge} {settings : Settings} {wishes : Settings.Wishes} {c : Console}
    (inserted : Cartridge.ofImage image = .ok cartridge)
    (built : ofCartridge cartridge settings wishes = .ok c)
    : Genuine image c
  | played {c : Console} (turn : Turn) (own : ∀ saved, turn ≠ .load saved)
    (before : Genuine image c)
    : Genuine image (c.play turn).2
  | ran {c : Console} (limits : Limits) (before : Genuine image c)
    : Genuine image (c.run limits).2
  | loaded {c d : Console} {created : String} {bundle : Bundle} (saving : Genuine image c)
    (loading : Genuine image d) (saved : c.save created = .ok bundle)
    : Genuine image ((load (some bundle)).perform d).2

variable {image : Bytes} {c : Console}

theorem Genuine.steady (genuine : Genuine image c)
    : ∃ cartridge, Cartridge.ofImage image = .ok cartridge ∧ c.Steady cartridge.build := by
  induction genuine with
  | built inserted built => exact ⟨_, inserted, ofCartridge_steady built⟩
  | played turn own _ hypothesis =>
      obtain ⟨cartridge, inserted, steady⟩ := hypothesis
      exact ⟨cartridge, inserted, steady.play own⟩
  | ran limits _ hypothesis =>
      obtain ⟨cartridge, inserted, steady⟩ := hypothesis
      exact ⟨cartridge, inserted, steady.run limits⟩
  | loaded _ _ saved saving loading =>
      obtain ⟨cartridge, inserted, saving⟩ := saving
      obtain ⟨cartridge', inserted', loading⟩ := loading
      obtain rfl : cartridge = cartridge' := Except.ok.inj (inserted.symm.trans inserted')
      exact ⟨cartridge, inserted, saving.load loading saved⟩

/-- A console holds what the hardware can hold, and works. -/
structure Intact (image : Bytes) (c : Console) : Prop where
  wellFormed : c.WellFormed
  link : c.memory.peripherals.serial.sc ∈ [0x00, 0x01, 0x80]
  rom : c.cartridge.rom = image
  header : Cartridge.Header.parse image = .ok c.cartridge.header
  lengths
    : c.memory.lengths = [0x2000, 0x7F, 0x2000, 0xA0, 0x30, 0x0C, c.cartridge.header.ramSize]
  /-- No address refuses to be read, and what is read is a byte. -/
  reads
    : ∀ address, Cpu.IsByte (c.read address).1.value
        ∧ c.memory.read? address c.interrupts
          = some ((c.read address).1, (c.read address).2.memory)
  writes
    : ∀ address value, c.memory.write? address value c.interrupts
        = some ((c.write address value).interrupts, (c.write address value).memory)
  packs : ∃ bytes, c.registers.pack = .ok bytes

/-- Every console of honest origin is intact. -/
theorem Genuine.intact (genuine : Genuine image c) : c.Intact image := by
  obtain ⟨cartridge, inserted, steady⟩ := genuine.steady
  obtain ⟨header, rom, _⟩ := Cartridge.ofImage_eq inserted
  have build := steady.around.build
  have standard : c.memory.build.Standard := build ▸ Cartridge.build_standard inserted
  obtain ⟨bytes, _, packs, _⟩ := Cpu.Snapshot.unpack_pack steady.inRange
  exact {
    wellFormed := wellFormed_iff.mpr ⟨steady.inRange, steady.around.phase, steady.around.banks⟩
    link := Serial.rests_iff.mp steady.around.link
    rom := (congrArg (·.rom) build).trans rom
    header := header.trans (congrArg Except.ok (congrArg Memory.Build.header build.symm))
    lengths := by
      simp only [Memory.lengths, Vector.size_toArray, c.memory.cartridge.ram_size]
      rfl
    reads := fun address => ⟨Byte.isByte_value _, Memory.read?_eq standard address c.interrupts⟩
    writes := fun address value => Memory.write?_eq standard address value c.interrupts
    packs := ⟨bytes, packs⟩ }

/-- A new console whose timer a host has set going comes back, intact, on one that has taken a step.
-/
theorem Genuine.intact_reloaded
    : ∃ c d : Console, ∃ bundle, c.save "" = .ok bundle ∧ c.memory.timer.tac = 5
        ∧ Genuine blankImage ((load (some bundle)).perform d).2
        ∧ ((load (some bundle)).perform d).2.Intact blankImage := by
  obtain ⟨_, _, new, inserted, built, _⟩ := built_blank
  have genuine : Genuine blankImage new := .built inserted built
  have saving := genuine.played (.write 0xFF07 5) nofun
  have loading := genuine.played .step nofun
  obtain ⟨bytes, packs⟩ := saving.intact.packs
  have reloaded := saving.loaded loading (save_ok packs "")
  exact ⟨_, _, _, save_ok packs "", rfl, reloaded, reloaded.intact⟩

end Console

end Handheld
