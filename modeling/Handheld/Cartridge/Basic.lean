import Handheld.Attempt

/-!
A cartridge: its program memory, its external memory and the bank registers of its circuit. Every
bank number is taken modulo the banks that are there, so a program may select any number.
-/

namespace Handheld

/-- A cartridge. The registers are integers because a saved state may bring in any number. -/
structure Cartridge where
  header : Cartridge.Header
  rom : Bytes
  ram : Bytes
  /-- Whether external memory answers. -/
  ramEnabled : Bool := header.mapper = .romOnly
  romBankRegister : Int := 1
  ramBankRegister : Int := 0
  bankingMode : Int := 0
  rom_size : rom.size = header.romSize
  ram_size : ram.size = header.ramSize

namespace Cartridge

/-- The value on the bus when nothing answers. -/
abbrev openBus : Byte := 0xFF

/-- A cartridge from its image, with external memory of zeros. -/
def ofImage (image : Bytes) : Except Refusal Cartridge := do
  let header ← Header.parse image
  if h : image.size = header.romSize then
    return {
      header
      rom := image
      ram := Array.replicate header.ramSize 0
      rom_size := h
      ram_size := by simp }
  else
    throw (.sizeMismatch image.size header.romBanks)

/-- The bank registers after a reset. External memory is kept. -/
def reset (cartridge : Cartridge) : Cartridge :=
  { cartridge with
    ramEnabled := cartridge.header.mapper = .romOnly
    romBankRegister := 1
    ramBankRegister := 0
    bankingMode := 0 }

/-- The circuit on the board. -/
def mapper (cartridge : Cartridge) : Mapper :=
  cartridge.header.mapper

/-- The bank in the upper half of the program area. -/
def romBank (cartridge : Cartridge) : Int :=
  let selected :=
    match cartridge.mapper with
    | .romOnly => 1
    | .mbc1 => Bits.lor (cartridge.ramBankRegister * 32) cartridge.romBankRegister
    | .mbc2 | .mbc3 | .mbc5 => cartridge.romBankRegister
  selected % cartridge.header.romBanks

/-- The bank in the lower half of the program area. Only one circuit can move it. -/
def lowRomBank (cartridge : Cartridge) : Int :=
  if cartridge.mapper = .mbc1 ∧ cartridge.bankingMode ≠ 0 then
    cartridge.ramBankRegister * 32 % cartridge.header.romBanks
  else 0

/-- The number of external banks that bank numbers are taken modulo. -/
def ramBankCount (cartridge : Cartridge) : Nat :=
  max 1 cartridge.header.ramBanks

/-- The bank of external memory. -/
def ramBank (cartridge : Cartridge) : Int :=
  let selected :=
    match cartridge.mapper with
    | .mbc1 => if cartridge.bankingMode ≠ 0 then cartridge.ramBankRegister else 0
    | .mbc3 | .mbc5 => cartridge.ramBankRegister
    | .romOnly | .mbc2 => 0
  selected % cartridge.ramBankCount

/-- The cell of external memory behind an offset of its area, or nothing while the memory does not
answer. One circuit has registers beyond its banks, which do not answer either. -/
def ramCell? (cartridge : Cartridge) (offset : Nat) : Option Nat :=
  if cartridge.ram.size = 0 ∨ !cartridge.ramEnabled then none
  else if cartridge.mapper = .mbc3 ∧ cartridge.ramBankRegister > 3 then none
  else if cartridge.mapper = .mbc2 then some (offset % cartridge.ram.size)
  else some ((cartridge.ramBank.toNat * ramBankSize + offset) % cartridge.ram.size)

/-- A byte of program memory, counted from the start of a bank. -/
def romByte (cartridge : Cartridge) (bank offset : Int) : Byte :=
  byteAt cartridge.rom ((bank * romBankSize + offset) % cartridge.rom.size).toNat

/-- Reads the program area. -/
def readRom (cartridge : Cartridge) (address : Int) : Byte :=
  if address < romBankSize then cartridge.romByte cartridge.lowRomBank address
  else cartridge.romByte cartridge.romBank (address - romBankSize)

/-- Reads external memory at an offset of its area. One circuit has cells of four bits. -/
def readRam (cartridge : Cartridge) (offset : Nat) : Byte :=
  match cartridge.ramCell? offset with
  | none => openBus
  | some cell =>
    let byte := byteAt cartridge.ram cell
    if cartridge.mapper = .mbc2 then 0xF0#8 ||| byte else byte

/-- Writes external memory at an offset of its area. -/
def writeRam (cartridge : Cartridge) (offset : Nat) (value : Byte) : Cartridge :=
  match cartridge.ramCell? offset with
  | none => cartridge
  | some cell =>
    let kept := if cartridge.mapper = .mbc2 then value &&& 0x0F#8 else value
    { cartridge with
      ram := cartridge.ram.setIfInBounds cell kept
      ram_size := by simp [cartridge.ram_size] }

/-- Opens or closes external memory. -/
def gateRam (cartridge : Cartridge) (value : Byte) : Cartridge :=
  { cartridge with ramEnabled := value.toNat % 16 = 0x0A }

/-- Selects a program bank by number, where zero counts as one. -/
def selectRom (cartridge : Cartridge) (number : Nat) : Cartridge :=
  { cartridge with romBankRegister := if number = 0 then 1 else number }

/-- Selects an external bank by number. -/
def selectRam (cartridge : Cartridge) (number : Nat) : Cartridge :=
  { cartridge with ramBankRegister := number }

/-- A write to the program area, which controls the banks. -/
def control (cartridge : Cartridge) (address : Int) (value : Byte) : Cartridge :=
  let number := value.toNat
  match cartridge.mapper with
  | .romOnly => cartridge
  | .mbc1 =>
    if address < 0x2000 then cartridge.gateRam value
    else if address < 0x4000 then cartridge.selectRom (number % 32)
    else if address < 0x6000 then cartridge.selectRam (number % 4)
    else { cartridge with bankingMode := (number % 2 : Nat) }
  | .mbc2 =>
    if address ≥ 0x4000 then cartridge
    else if address / 256 % 2 = 1 then cartridge.selectRom (number % 16)
    else cartridge.gateRam value
  | .mbc3 =>
    if address < 0x2000 then cartridge.gateRam value
    else if address < 0x4000 then cartridge.selectRom (number % 128)
    else if address < 0x6000 then cartridge.selectRam (number % 16)
    else cartridge
  | .mbc5 =>
    let register := cartridge.romBankRegister
    if address < 0x2000 then cartridge.gateRam value
    else if address < 0x3000 then
      { cartridge with romBankRegister := register / 256 % 2 * 256 + number }
    else if address < 0x4000 then
      { cartridge with romBankRegister := register % 256 + (number % 2 : Nat) * 256 }
    else if address < 0x6000 then cartridge.selectRam (number % 16)
    else cartridge

/-- The place of an address in the area of external memory. -/
def ramOffset? (address : Int) : Option Nat :=
  if 0xA000 ≤ address ∧ address < 0xC000 then some (address - 0xA000).toNat else none

/-- Reads an address as the cartridge's own pins see it. -/
def read (cartridge : Cartridge) (address : Int) : Byte :=
  if address < 0x8000 then cartridge.readRom address
  else ((ramOffset? address).map cartridge.readRam).getD openBus

/-- Writes the low byte of a number to an address as the cartridge's own pins see it. -/
def write (cartridge : Cartridge) (address value : Int) : Cartridge :=
  if address < 0x8000 then cartridge.control address (Byte.ofInt value)
  else
    match ramOffset? address with
    | some offset => cartridge.writeRam offset (Byte.ofInt value)
    | none => cartridge

/-- The key under which a host can file the external memory of this cartridge. -/
def identity (cartridge : Cartridge) : String :=
  let title := cartridge.header.title
  (if title.isEmpty then "UNTITLED" else title) ++ "-"
    ++ Text.hex 4 cartridge.header.globalChecksum.value

/-- Replaces external memory; the number of bytes has to fit. -/
def restoreRam (bytes : Bytes) (cartridge : Cartridge) : Except Error Cartridge :=
  if h : bytes.size = cartridge.ram.size then
    .ok { cartridge with ram := bytes, ram_size := h.trans cartridge.ram_size }
  else
    .error (.externalRamSize cartridge.ram.size bytes.size)

/-- The bank registers as a saved state holds them. -/
def savedBanks (cartridge : Cartridge) : Json :=
  .object [
    ("ram_enabled", .int cartridge.ramEnabled.toNat),
    ("rom_bank_register", .int cartridge.romBankRegister),
    ("ram_bank_register", .int cartridge.ramBankRegister),
    ("banking_mode", .int cartridge.bankingMode)]

/-- Takes over saved bank registers, one by one and as they are. -/
def restoreBanks (state : Json) : Attempt Cartridge Unit := do
  let ramEnabled ← Attempt.expect (state.switchMember "ram_enabled" (← get).ramEnabled)
  modify fun cartridge => { cartridge with ramEnabled }
  let romBankRegister ← Attempt.expect (state.intMember "rom_bank_register" 1)
  modify fun cartridge => { cartridge with romBankRegister }
  let ramBankRegister ← Attempt.expect (state.intMember "ram_bank_register" 0)
  modify fun cartridge => { cartridge with ramBankRegister }
  let bankingMode ← Attempt.expect (state.intMember "banking_mode" 0)
  modify fun cartridge => { cartridge with bankingMode }

end Cartridge

end Handheld
