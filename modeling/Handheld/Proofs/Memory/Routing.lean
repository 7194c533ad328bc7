import Handheld.Memory.Basic
import Handheld.Proofs.Console.Reachable

/-! No access to the machine's memory is refused.
Each device refuses addresses that are not its own, and each array indices beyond its end. The
ranges by which addresses are handed out keep clear of that, on a machine as it was built.
-/

namespace Handheld

-----------------------------------------------------------------------------------------
-- Accessors that may refuse
-----------------------------------------------------------------------------------------

namespace Window

variable {size : Nat} {window : Window size} {address : Int} {offset : Fin size}

/-- An offset within a row denotes its place there. -/
theorem place?_val (offset : Fin size) : place? size (offset : Nat) = some offset := by
  have bound := offset.isLt
  have index : 0 ≤ ((offset : Nat) : Int) ∧ ((offset : Nat) : Int) < size := by omega
  have positive : ¬((offset : Nat) : Int) < 0 := by omega
  simp [place?, positive, index]

/-- A window answers at its own addresses. -/
theorem read_eq (own : address = window.start + (offset : Nat))
    : window.read address = .ok (window.get offset) := by
  have inside : address - window.start = (offset : Nat) := by omega
  rw [read, inside, place?_val]

/-- A window takes bytes at its own addresses. -/
theorem write_eq (own : address = window.start + (offset : Nat)) (value : Byte)
    : window.write address value.value = .ok (window.set offset value) := by
  have inside : address - window.start = (offset : Nat) := by omega
  rw [write, inside, place?_val, Byte.ofInt_value]

end Window

namespace Cartridge

/-- A byte of program memory. Nothing can be divided by zero, and the image ends somewhere. -/
def romByte? (k : Cartridge) (bank offset : Int) : Option Byte :=
  if k.header.romBanks = 0 ∨ k.rom.size = 0 then none
  else k.rom[((bank * romBankSize + offset) % k.rom.size).toNat]?

/-- Reads the program area. -/
def readRom? (k : Cartridge) (address : Int) : Option Byte :=
  if address < romBankSize then k.romByte? k.lowRomBank address
  else k.romByte? k.romBank (address - romBankSize)

/-- Reads external memory, which ends somewhere. -/
def readRam? (k : Cartridge) (offset : Nat) : Option Byte :=
  match k.ramCell? offset with
  | none => some openBus
  | some cell => k.ram[cell]?.map fun byte => if k.mapper = .mbc2 then 0xF0#8 ||| byte else byte

/-- Writes external memory, which ends somewhere. -/
def writeRam? (k : Cartridge) (offset : Nat) (value : Byte) : Option Cartridge :=
  match k.ramCell? offset with
  | none => some k
  | some cell => if cell < k.ram.size then some (k.writeRam offset value) else none

/-- Controls the banks, whose numbers are then taken modulo the number of banks. -/
def control? (k : Cartridge) (address : Int) (value : Byte) : Option Cartridge :=
  if k.header.romBanks = 0 then none else some (k.control address value)

/-- Reads an address, by the ranges of the cartridge's own pins. -/
def read? (k : Cartridge) (address : Int) : Option Byte :=
  if address < 0x8000 then k.readRom? address
  else (ramOffset? address).elim (some openBus) k.readRam?

/-- Writes an address, by the ranges of the cartridge's own pins. -/
def write? (k : Cartridge) (address : Int) (value : Byte) : Option Cartridge :=
  if address < 0x8000 then k.control? address value
  else (ramOffset? address).elim (some k) fun offset => k.writeRam? offset value

variable {k : Cartridge}

/-- A cell of external memory is one that is there. -/
theorem ramCell?_lt {offset cell : Nat} (found : k.ramCell? offset = some cell)
    : cell < k.ram.size := by
  rw [ramCell?] at found
  split at found
  · cases found
  have some_ram : 0 < k.ram.size := by grind
  split at found
  · cases found
  split at found
  all_goals
    obtain rfl := Option.some.inj found
    exact Nat.mod_lt _ some_ram

theorem readRam?_eq (offset : Nat) : k.readRam? offset = some (k.readRam offset) := by
  rw [readRam?, readRam]
  cases found : k.ramCell? offset with
  | none => rfl
  | some cell =>
      have bound := ramCell?_lt found
      simp [byteAt, Array.getElem?_eq_getElem bound]

theorem writeRam?_eq (offset : Nat) (value : Byte)
    : k.writeRam? offset value = some (k.writeRam offset value) := by
  rw [writeRam?]
  cases found : k.ramCell? offset with
  | none => simp only [writeRam, found]
  | some cell => exact if_pos (ramCell?_lt found)

theorem romByte?_eq (banked : 0 < k.header.romBanks) (bank offset : Int)
    : k.romByte? bank offset = some (k.romByte bank offset) := by
  have size : 0 < k.rom.size := by
    rw [k.rom_size, Header.romSize]
    exact Nat.mul_pos banked (by decide)
  have low := Int.emod_nonneg (bank * romBankSize + offset) (b := k.rom.size) (by omega)
  have high := Int.emod_lt_of_pos (bank * romBankSize + offset) (b := k.rom.size) (by omega)
  have bound : ((bank * romBankSize + offset) % k.rom.size).toNat < k.rom.size := by omega
  rw [romByte?, if_neg (by omega), romByte, byteAt, Array.getElem?_eq_getElem bound,
    Option.getD_some]

theorem readRom?_eq (banked : 0 < k.header.romBanks) (address : Int)
    : k.readRom? address = some (k.readRom address) := by
  rw [readRom?, readRom]
  split <;> exact romByte?_eq banked _ _

/-- A cartridge refuses no address, though at some it has nothing to say. -/
theorem read?_eq (banked : 0 < k.header.romBanks) (address : Int)
    : k.read? address = some (k.read address) := by
  rw [read?, read]
  split
  · exact readRom?_eq banked address
  · cases ramOffset? address with
    | none => rfl
    | some offset => exact readRam?_eq offset

theorem write?_eq (banked : 0 < k.header.romBanks) (address : Int) (value : Byte)
    : k.write? address value = some (k.write address value.value) := by
  rw [write?, write, Byte.ofInt_value]
  split
  · exact if_neg (by omega)
  · cases ramOffset? address with
    | none => rfl
    | some offset => exact writeRam?_eq offset value

end Cartridge

-----------------------------------------------------------------------------------------
-- Who answers at an address
-----------------------------------------------------------------------------------------

namespace Memory

/-- What an access can be handed to. Work memory is reached from two places. -/
inductive Owner
  | cartridge
  | vram
  | wram (start : Int)
  | oam
  | joypad
  | serial
  | timer
  | requests
  | audio
  | video
  | hram
  | enable
  /-- The area below the devices, where nobody is asked. -/
  | deadArea
  /-- No device has the address. -/
  | nobody
  deriving DecidableEq, Repr

/-- Who owns an address of the device area. The windows are asked last. -/
def deviceOwner (m : Memory) (address : Int) : Owner :=
  if address = 0xFF0F then .requests
  else if address = 0xFF00 then .joypad
  else if address = 0xFF01 ∨ address = 0xFF02 then .serial
  else if 0xFF04 ≤ address ∧ address ≤ 0xFF07 then .timer
  else if m.peripherals.audio.contains address then .audio
  else if m.peripherals.video.contains address then .video
  else .nobody

/-- Who owns an address. -/
def owner (m : Memory) (address : Int) : Owner :=
  if address < 0x8000 then .cartridge
  else if address < 0xA000 then .vram
  else if address < 0xC000 then .cartridge
  else if address < 0xE000 then .wram 0xC000
  else if address < 0xFE00 then .wram 0xE000
  else if address < 0xFEA0 then .oam
  else if address < 0xFF00 then .deadArea
  else if address < 0xFF80 then m.deviceOwner address
  else if address < 0xFFFF then .hram
  else .enable

/-- What an owner answers at an address, unless it refuses. -/
def answer? (m : Memory) (interrupts : Interrupts) (address : Int) : Owner → Option Byte
  | .cartridge => m.cartridge.read? address
  | .vram => (m.peripherals.vram.read address).toOption
  | .wram start => (Window.place? 0x2000 (address - start)).map m.wram.get
  | .oam => (m.peripherals.oam.read address).toOption
  | .joypad => some m.peripherals.joypad.read
  | .serial => (m.peripherals.serial.read address).toOption
  | .timer => (m.timer.read address).toOption
  | .requests => some (Byte.ofInt interrupts.readRequests)
  | .audio => (m.peripherals.audio.read address).toOption
  | .video => (m.peripherals.video.read address).toOption
  | .hram => (Window.place? 0x7F (address - 0xFF80)).map m.hram.get
  | .enable => some interrupts.enable
  | .deadArea | .nobody => some Cartridge.openBus

/-- What an owner makes of a byte written to an address, unless it refuses. -/
def accept? (m : Memory) (interrupts : Interrupts) (address : Int) (value : Byte)
    : Owner → Option (Interrupts × Memory)
  | .cartridge =>
    (m.cartridge.write? address value).map fun cartridge => (interrupts, { m with cartridge })
  | .vram =>
    (m.peripherals.vram.write address value.value).toOption.map fun vram =>
      (interrupts, m.onPeripherals fun p => { p with vram })
  | .wram start =>
    (Window.place? 0x2000 (address - start)).map fun offset => m.set (.wram offset) value interrupts
  | .oam =>
    (m.peripherals.oam.write address value.value).toOption.map fun oam =>
      (interrupts, m.onPeripherals fun p => { p with oam })
  | .joypad =>
    some (interrupts, m.onPeripherals fun p => { p with joypad := p.joypad.write value.value })
  | .serial =>
    (m.peripherals.serial.write address value.value interrupts).toOption.map
      fun (serial, interrupts) => (interrupts, m.onPeripherals fun p => { p with serial })
  | .timer =>
    (m.timer.write address value.value).toOption.map fun timer => (interrupts, { m with timer })
  | .requests => some (interrupts.writeRequests value.value, m)
  | .audio =>
    (m.peripherals.audio.write address value.value).toOption.map fun audio =>
      (interrupts, m.onPeripherals fun p => { p with audio })
  | .video =>
    (m.peripherals.video.write address value.value).toOption.map fun video =>
      (interrupts, m.onPeripherals fun p => { p with video })
  | .hram =>
    (Window.place? 0x7F (address - 0xFF80)).map fun offset => m.set (.hram offset) value interrupts
  | .enable => some (interrupts.writeEnable value.value, m)
  | .deadArea | .nobody => some (interrupts, m)

/-- A memory with standard windows and a cartridge that has banks. -/
structure Build.Standard (build : Build) : Prop where
  banks : 0 < build.header.romBanks
  vram : build.vram = ({} : Peripherals).vram.reset
  oam : build.oam = ({} : Peripherals).oam.reset
  audio : build.audio = ({} : Peripherals).audio.reset
  video : build.video = ({} : Peripherals).video.reset

/-- An owner owns an address that denotes a place. -/
inductive Owns (address : Int) : Owner → Place → Prop
  | rom {offset : Fin 0x8000} (own : address = (offset : Nat))
    : Owns address .cartridge (.rom offset)
  | vram {offset : Fin 0x2000} (own : address = 0x8000 + (offset : Nat))
    : Owns address .vram (.vram offset)
  | cartridgeRam {offset : Fin 0x2000} (own : address = 0xA000 + (offset : Nat))
    : Owns address .cartridge (.cartridgeRam offset)
  | wram {start : Int} {offset : Fin 0x2000} (own : address = start + (offset : Nat))
    : Owns address (.wram start) (.wram offset)
  | oam {offset : Fin 0xA0} (own : address = 0xFE00 + (offset : Nat))
    : Owns address .oam (.oam offset)
  | joypad : Owns address .joypad .joypad
  | serial {register : Serial.Register} (own : Serial.register? address = some register)
    : Owns address .serial (.serial register)
  | timer {register : Timer.Register} (own : Timer.register? address = some register)
    : Owns address .timer (.timer register)
  | requests : Owns address .requests .interruptRequests
  | audio {offset : Fin 0x30} (own : address = 0xFF10 + (offset : Nat))
    : Owns address .audio (.audio offset)
  | video {offset : Fin 0x0C} (own : address = 0xFF40 + (offset : Nat))
    : Owns address .video (.video offset)
  | hram {offset : Fin 0x7F} (own : address = 0xFF80 + (offset : Nat))
    : Owns address .hram (.hram offset)
  | enable : Owns address .enable .interruptEnable
  | deadArea : Owns address .deadArea .deadArea
  | nobody : Owns address .nobody .vacant

variable {m : Memory}

/-- Where the windows are. -/
theorem Build.Standard.starts (standard : m.build.Standard)
    : m.peripherals.vram.start = 0x8000 ∧ m.peripherals.oam.start = 0xFE00
        ∧ m.peripherals.audio.start = 0xFF10 ∧ m.peripherals.video.start = 0xFF40 :=
  ⟨congrArg Window.start standard.vram, congrArg Window.start standard.oam,
    congrArg Window.start standard.audio, congrArg Window.start standard.video⟩

/-- Which addresses of the device area are in a window. -/
theorem Build.Standard.contains (standard : m.build.Standard) (address : Int)
    : (m.peripherals.audio.contains address = true ↔ 0xFF10 ≤ address ∧ address ≤ 0xFF3F)
        ∧ (m.peripherals.video.contains address = true ↔ 0xFF40 ≤ address ∧ address ≤ 0xFF4B) := by
  obtain ⟨_, _, audio, video⟩ := standard.starts
  have heard : m.peripherals.audio.declared = 0x30 := congrArg Window.declared standard.audio
  have seen : m.peripherals.video.declared = 0x0C := congrArg Window.declared standard.video
  simp only [Window.contains, Window.last, audio, video, heard, seen, decide_eq_true_eq]
  omega

theorem serial_register?_eq_none {address : Int} (other : address ≠ 0xFF01 ∧ address ≠ 0xFF02)
    : Serial.register? address = none := by
  unfold Serial.register?
  split
  · exact absurd rfl other.1
  · exact absurd rfl other.2
  · rfl

theorem timer_register?_eq_none {address : Int} (other : address < 0xFF04 ∨ 0xFF07 < address)
    : Timer.register? address = none := by
  unfold Timer.register?
  split
  all_goals first | rfl | exact absurd other (by decide)

/-- An address of the device area denotes a place of it. -/
theorem place_device {address : Address} (low : 0xFF00 ≤ address.val) (high : address.val < 0xFF80)
    : place address = devicePlace address := by
  rw [place, dif_neg (by omega), dif_neg (by omega), dif_neg (by omega), dif_neg (by omega),
    dif_neg (by omega), dif_neg (by omega), if_neg (by omega), if_pos high]

/-- The device area is handed out address by address, and then by windows. -/
theorem owns_device (standard : m.build.Standard) {address : Nat} (low : 0xFF00 ≤ address)
    (high : address < 0xFF80)
    : Owns address (m.deviceOwner address) (devicePlace address) := by
  obtain ⟨audio, video⟩ := standard.contains address
  rw [deviceOwner]
  split
  case isTrue requests =>
      obtain rfl : address = 0xFF0F := by omega
      exact .requests
  split
  case isTrue joypad =>
      obtain rfl : address = 0xFF00 := by omega
      exact .joypad
  split
  case isTrue serial =>
      obtain rfl | rfl : address = 0xFF01 ∨ address = 0xFF02 := by omega
      all_goals exact .serial rfl
  split
  case isTrue timer =>
      obtain rfl | rfl | rfl | rfl
          : address = 0xFF04 ∨ address = 0xFF05 ∨ address = 0xFF06 ∨ address = 0xFF07 := by omega
      all_goals exact .timer rfl
  -- Neither device registers nor requests are left, so the windows come next.
  rw [devicePlace, serial_register?_eq_none (by omega), timer_register?_eq_none (by omega)]
  dsimp only
  have neither : address ≠ 0xFF00 ∧ address ≠ 0xFF0F := by omega
  rw [if_neg neither.1, if_neg neither.2]
  split
  case isTrue contained =>
      have inside := audio.mp contained
      rw [dif_pos (by omega)]
      exact .audio (by dsimp only; omega)
  split
  case isTrue contained =>
      have inside := video.mp contained
      rw [dif_neg (by omega), dif_pos (by omega)]
      exact .video (by dsimp only; omega)
  case isFalse silent dark =>
      rw [audio] at silent
      rw [video] at dark
      rw [dif_neg (by omega), dif_neg (by omega)]
      exact .nobody

/-- Every address is handed to the owner of the place that it denotes. -/
theorem owns (standard : m.build.Standard) (address : Address)
    : Owns address.val (m.owner address.val) (place address) := by
  -- Both sides ask for the same ranges in the same order.
  rw [owner, place]
  by_cases rom : address.val < 0x8000
  · rw [if_pos (by omega), dif_pos rom]
    exact .rom rfl
  rw [if_neg (by omega), dif_neg rom]
  by_cases vram : address.val < 0xA000
  · rw [if_pos (by omega), dif_pos vram]
    exact .vram (by dsimp only; omega)
  rw [if_neg (by omega), dif_neg vram]
  by_cases cartridgeRam : address.val < 0xC000
  · rw [if_pos (by omega), dif_pos cartridgeRam]
    exact .cartridgeRam (by dsimp only; omega)
  rw [if_neg (by omega), dif_neg cartridgeRam]
  by_cases wram : address.val < 0xE000
  · rw [if_pos (by omega), dif_pos wram]
    exact .wram (by dsimp only; omega)
  rw [if_neg (by omega), dif_neg wram]
  by_cases echo : address.val < 0xFE00
  · rw [if_pos (by omega), dif_pos echo]
    exact .wram (by dsimp only; omega)
  rw [if_neg (by omega), dif_neg echo]
  by_cases oam : address.val < 0xFEA0
  · rw [if_pos (by omega), dif_pos oam]
    exact .oam (by dsimp only; omega)
  rw [if_neg (by omega), dif_neg oam]
  by_cases dead : address.val < 0xFF00
  · rw [if_pos (by omega), if_pos dead]
    exact .deadArea
  rw [if_neg (by omega), if_neg dead]
  by_cases device : address.val < 0xFF80
  · rw [if_pos (by omega), if_pos device]
    exact owns_device standard (by omega) device
  rw [if_neg (by omega), if_neg device]
  by_cases hram : address.val < 0xFFFF
  · rw [if_pos (by omega), dif_pos hram]
    exact .hram (by dsimp only; omega)
  rw [if_neg (by omega), dif_neg hram]
  exact .enable

-----------------------------------------------------------------------------------------
-- No access is refused
-----------------------------------------------------------------------------------------

/-- An owner answers what is at the place. -/
theorem answer?_eq (standard : m.build.Standard) (interrupts : Interrupts) {address : Int}
    {owner : Owner} {place : Place} (owns : Owns address owner place)
    : m.answer? interrupts address owner = some (m.get interrupts place) := by
  obtain ⟨vram, oam, audio, video⟩ := standard.starts
  cases owns with
  | @rom offset own =>
      have bound := offset.isLt
      rw [answer?, Cartridge.read?_eq standard.banks, own, Cartridge.read, if_pos (by omega)]
      rfl
  | @cartridgeRam offset own =>
      have bound := offset.isLt
      have inside : Cartridge.ramOffset? address = some (offset : Nat) := by
        rw [Cartridge.ramOffset?, if_pos (by omega)]
        exact congrArg some (by omega)
      rw [answer?, Cartridge.read?_eq standard.banks, Cartridge.read, if_neg (by omega), inside]
      rfl
  | vram own => rw [answer?, Window.read_eq (vram ▸ own)]; rfl
  | oam own => rw [answer?, Window.read_eq (oam ▸ own)]; rfl
  | audio own => rw [answer?, Window.read_eq (audio ▸ own)]; rfl
  | video own => rw [answer?, Window.read_eq (video ▸ own)]; rfl
  | @wram start offset own =>
      have inside : address - start = (offset : Nat) := by omega
      rw [answer?, inside, Window.place?_val]
      rfl
  | @hram offset own =>
      have inside : address - 0xFF80 = (offset : Nat) := by omega
      rw [answer?, inside, Window.place?_val]
      rfl
  | serial own => rw [answer?, Serial.read, own]; rfl
  | timer own => rw [answer?, Timer.read, own]; rfl
  | joypad | requests | enable | deadArea | nobody => rfl

/-- An owner does with a byte what is done at the place. -/
theorem accept?_eq (standard : m.build.Standard) (interrupts : Interrupts) (value : Byte)
    {address : Int} {owner : Owner} {place : Place} (owns : Owns address owner place)
    : m.accept? interrupts address value owner = some (m.set place value interrupts) := by
  obtain ⟨vram, oam, audio, video⟩ := standard.starts
  cases owns with
  | @rom offset own =>
      have bound := offset.isLt
      rw [accept?, Cartridge.write?_eq standard.banks, own, Cartridge.write, if_pos (by omega),
        Byte.ofInt_value]
      rfl
  | @cartridgeRam offset own =>
      have bound := offset.isLt
      have inside : Cartridge.ramOffset? address = some (offset : Nat) := by
        rw [Cartridge.ramOffset?, if_pos (by omega)]
        exact congrArg some (by omega)
      rw [accept?, Cartridge.write?_eq standard.banks, Cartridge.write, if_neg (by omega), inside,
        Byte.ofInt_value]
      rfl
  | vram own => rw [accept?, Window.write_eq (vram ▸ own)]; rfl
  | oam own => rw [accept?, Window.write_eq (oam ▸ own)]; rfl
  | audio own => rw [accept?, Window.write_eq (audio ▸ own)]; rfl
  | video own => rw [accept?, Window.write_eq (video ▸ own)]; rfl
  | @wram start offset own =>
      have inside : address - start = (offset : Nat) := by omega
      rw [accept?, inside, Window.place?_val]
      rfl
  | @hram offset own =>
      have inside : address - 0xFF80 = (offset : Nat) := by omega
      rw [accept?, inside, Window.place?_val]
      rfl
  | serial own => rw [accept?, Serial.write, own, Byte.ofInt_value]; rfl
  | timer own => rw [accept?, Timer.write, own, Byte.ofInt_value]; rfl
  | enable => rw [accept?, Interrupts.writeEnable, Byte.ofInt_value]; rfl
  | joypad | requests | deadArea | nobody => rfl

/-- Reads an address, which is counted and logged if it is not refused. -/
def read? (m : Memory) (address : Int) (interrupts : Interrupts) : Option (Byte × Memory) :=
  let address := Address.ofInt address
  (m.answer? interrupts address.val (m.owner address.val)).map fun value =>
    (value,
      { m with
        readCount := m.readCount + 1
        log := m.log.noteRead address value })

/-- Writes an address, which is counted and logged before it can be refused. -/
def write? (m : Memory) (address value : Int) (interrupts : Interrupts)
    : Option (Interrupts × Memory) :=
  let address := Address.ofInt address
  let byte := Byte.ofInt value
  let noted := { m with
    writeCount := m.writeCount + 1
    log := m.log.noteWrite address byte }
  noted.accept? interrupts address.val byte (noted.owner address.val)

/-- No read is refused, at any address. -/
theorem read?_eq (standard : m.build.Standard) (address : Int) (interrupts : Interrupts)
    : m.read? address interrupts = some (m.read address interrupts) := by
  rw [read?, answer?_eq standard interrupts (owns standard _)]
  rfl

/-- No write is refused, at any address and of any value. -/
theorem write?_eq (standard : m.build.Standard) (address value : Int) (interrupts : Interrupts)
    : m.write? address value interrupts = some (m.write address value interrupts) := by
  let noted : Memory :=
    { m with
      writeCount := m.writeCount + 1
      log := m.log.noteWrite (Address.ofInt address) (Byte.ofInt value) }
  have kept : noted.build.Standard := standard
  rw [write?, write]
  exact accept?_eq kept interrupts (Byte.ofInt value) (owns kept (Address.ofInt address))

/-- What the guarded bus makes of a read. -/
def guardRead (interrupts : Interrupts) (found : Option (Byte × Memory))
    : Int × Interrupts × Option Memory :=
  found.elim (0, interrupts, none) fun found => (found.1.value, interrupts, some found.2)

/-- What the guarded bus makes of a write. -/
def guardWrite (interrupts : Interrupts) (done : Option (Interrupts × Memory))
    : Interrupts × Option Memory :=
  done.elim (interrupts, none) fun done => (done.1, some done.2)

/-- The bus to a memory that is lost for good as soon as it refuses an access. -/
def guarded : Cpu.Bus (Option Memory) where
  read address interrupts memory :=
    guardRead interrupts (memory.bind (·.read? address interrupts))
  write address value interrupts memory :=
    guardWrite interrupts (memory.bind (·.write? address value interrupts))

/-- The memory is not lost, and the surroundings are the same. -/
def Kept (s : Interrupts × Option Memory) (t : Interrupts × Memory) : Prop :=
  s.1 = t.1 ∧ s.2 = some t.2 ∧ t.2.build.Standard

theorem guarded_read (standard : m.build.Standard) (address : Int) (interrupts : Interrupts)
    : guarded.read address interrupts (some m)
      = guardRead interrupts (some (m.read address interrupts)) := by
  rw [guarded]
  dsimp only
  rw [Option.bind_some, read?_eq standard]

theorem guarded_write (standard : m.build.Standard) (address value : Int)
    (interrupts : Interrupts)
    : guarded.write address value interrupts (some m)
      = guardWrite interrupts (some (m.write address value interrupts)) := by
  rw [guarded]
  dsimp only
  rw [Option.bind_some, write?_eq standard]

/-- A processor does not notice the guard. -/
theorem guarded_congruent : Cpu.Bus.Congruent Kept guarded bus where
  master kept := congrArg Interrupts.master kept.1
  pending kept := congrArg Interrupts.pending kept.1
  setMaster kept enabled := ⟨congrArg (·.setMaster enabled) kept.1, kept.2⟩
  acknowledge kept source := ⟨congrArg (·.acknowledge source) kept.1, kept.2⟩
  answer := by
    rintro ⟨interrupts, memory⟩ ⟨_, m⟩ ⟨rfl, there, standard⟩ address
    obtain rfl : memory = some m := there
    rw [guarded_read standard]
    rfl
  read := by
    rintro ⟨interrupts, memory⟩ ⟨_, m⟩ ⟨rfl, there, standard⟩ address
    obtain rfl : memory = some m := there
    rw [guarded_read standard]
    exact ⟨rfl, rfl, standard⟩
  write := by
    rintro ⟨interrupts, memory⟩ ⟨_, m⟩ ⟨rfl, there, standard⟩ address value
    obtain rfl : memory = some m := there
    rw [guarded_write standard]
    refine ⟨rfl, rfl, ?_⟩
    exact (write_build address.toNat value.toNat interrupts).symm ▸ standard

/-- No access that a step makes is refused. Witness: with the guard the memory is still there behind
the step, and everything is as it would be without.
-/
theorem step_guarded {core : Cpu.Core Memory} (inRange : core.cpu.registers.InRange)
    (standard : core.memory.build.Standard)
    : ((Cpu.Core.step guarded).run { core with memory := some core.memory }).1
          = ((Cpu.Core.step bus).run core).1
        ∧ ((Cpu.Core.step guarded).run { core with memory := some core.memory }).2.memory
          = some ((Cpu.Core.step bus).run core).2.memory := by
  have start : Cpu.Core.Alike Kept (Cpu.Core.forgotten { core with memory := some core.memory })
      core.forgotten :=
    { registers := Cpu.Registers.same_iff.mpr ⟨inRange, rfl⟩, halted := rfl, stopped := rfl
      haltBug := rfl, eiPending := rfl, instructionCount := rfl, lastInstruction := rfl
      lastInterrupt := rfl, around := ⟨rfl, rfl, standard⟩ }
  obtain ⟨same, alike⟩ := start.step guarded_congruent
  exact ⟨same, alike.around.2.1⟩

end Memory

end Handheld
