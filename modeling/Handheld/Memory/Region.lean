import Handheld.Serial
import Handheld.Timer

/-!
The map of the address space: which cell or device register each of the 65536 addresses denotes,
and the names of its regions.
-/

namespace Handheld.Memory

/-- What an address denotes. -/
inductive Place
  | rom (address : Fin 0x8000)
  | vram (offset : Fin 0x2000)
  | cartridgeRam (offset : Fin 0x2000)
  /-- Work memory, directly or through its echo. -/
  | wram (offset : Fin 0x2000)
  | oam (offset : Fin 0xA0)
  | joypad
  | serial (register : Serial.Register)
  | timer (register : Timer.Register)
  | interruptRequests
  | audio (offset : Fin 0x30)
  | video (offset : Fin 0x0C)
  /-- The area below the devices, where nothing answers. -/
  | deadArea
  /-- An address of the device area that no device has. -/
  | vacant
  | hram (offset : Fin 0x7F)
  | interruptEnable
  deriving DecidableEq, Repr

/-- The register that an address of the device area denotes. -/
def devicePlace (address : Nat) : Place :=
  match Serial.register? address, Timer.register? address with
  | some register, _ => .serial register
  | none, some register => .timer register
  | none, none =>
    if address = 0xFF00 then .joypad
    else if address = 0xFF0F then .interruptRequests
    else if h : 0xFF10 ≤ address ∧ address < 0xFF40 then .audio ⟨address - 0xFF10, by omega⟩
    else if h : 0xFF40 ≤ address ∧ address < 0xFF4C then .video ⟨address - 0xFF40, by omega⟩
    else .vacant

/-- The place that a 16-bit address denotes. -/
def place (address : Address) : Place :=
  let a := address.val
  if h : a < 0x8000 then .rom ⟨a, h⟩
  else if h : a < 0xA000 then .vram ⟨a - 0x8000, by omega⟩
  else if h : a < 0xC000 then .cartridgeRam ⟨a - 0xA000, by omega⟩
  else if h : a < 0xE000 then .wram ⟨a - 0xC000, by omega⟩
  else if h : a < 0xFE00 then .wram ⟨a - 0xE000, by omega⟩
  else if h : a < 0xFEA0 then .oam ⟨a - 0xFE00, by omega⟩
  else if a < 0xFF00 then .deadArea
  else if a < 0xFF80 then devicePlace a
  else if h : a < 0xFFFF then .hram ⟨a - 0xFF80, by omega⟩
  else .interruptEnable

/-- The name of the region around an address. -/
def regionName (address : Address) : String :=
  let a := address.val
  if a < 0x8000 then "rom"
  else if a < 0xA000 then "vram"
  else if a < 0xC000 then "cart_ram"
  else if a < 0xE000 then "wram"
  else if a < 0xFE00 then "echo"
  else if a < 0xFEA0 then "oam"
  else if a < 0xFF00 then "unusable"
  else if a < 0xFF80 then "io"
  else if a < 0xFFFF then "hram"
  else "ie"

end Handheld.Memory
