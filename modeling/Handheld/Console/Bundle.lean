import Handheld.Console.Basic
import Handheld.Cpu.Packed
import Handheld.Interrupt.Saved
import Handheld.Json.Parser
import Handheld.Text.Encoding

/-!
Bundles: what a saved console consists of. A bundle has a description, which holds everything
that is small, and named members, which hold the registers and the memories as bytes.
-/

namespace Handheld

/-- The members of a bundle that hold bytes. -/
inductive Member
  | registers
  | wram
  | hram
  | vram
  | oam
  /-- The device area as the processor would read it. -/
  | devices
  | externalRam
  deriving DecidableEq, Repr

/-- The name of a member. -/
def Member.name : Member → String
  | .registers => "registers.bin"
  | .wram => "wram.bin"
  | .hram => "hram.bin"
  | .vram => "vram.bin"
  | .oam => "oam.bin"
  | .devices => "io.bin"
  | .externalRam => "cart_ram.bin"

/-- The description of a bundle as it is found: a document, or bytes that someone has put in its
place. -/
inductive Description
  | document (value : Json)
  | bytes (data : Bytes)

/-- The document that a description is. Bytes have to be its text in one of the usual encodings. -/
def Description.read : Description → Except Error Json
  | .document value => .ok value
  | .bytes data =>
    match Text.ofBytes? data.toList with
    | some text => (Json.parse text).mapError .document
    | none => .error .undecodable

/-- A saved console. Anyone can make up a bundle, so members may be missing or hold any bytes. -/
structure Bundle where
  description : Option Description
  payloads : List (Text × Bytes)

namespace Bundle

/-- The name of the description among the members. -/
abbrev descriptionName : String := "snapshot.json"

/-- What a description has to say it is. -/
abbrev magic : String := "dmg.snapshot"

/-- The version of the format. -/
abbrev version : Int := 1

/-- The bytes of a member. -/
def payload (bundle : Bundle) (member : Member) : Except Error Bytes :=
  match bundle.payloads.lookup (member.name : Text) with
  | some bytes => .ok bytes
  | none => .error (.bundle .missingMember)

/-- The document of the description. -/
def document (bundle : Bundle) : Except Error Json :=
  match bundle.description with
  | none => .error (.bundle .missingMember)
  | some description => description.read

/-- Changes the document of a description. Where there is none, nothing changes. -/
def onDocument (change : Json → Except Misfit Json) (bundle : Bundle) : Except Misfit Bundle := do
  let .ok value := bundle.document | return bundle
  return { bundle with description := some (.document (← change value)) }

/-- Takes a member out. -/
def drop (name : Text) (bundle : Bundle) : Bundle :=
  if name = descriptionName then { bundle with description := none }
  else { bundle with payloads := bundle.payloads.filter fun (other, _) => other ≠ name }

/-- Puts a member in, in place of one of the same name. -/
def put (name : Text) (bytes : Bytes) (bundle : Bundle) : Bundle :=
  if name = descriptionName then { bundle with description := some (.bytes bytes) }
  else { bundle with payloads := (bundle.drop name).payloads ++ [(name, bytes)] }

/-- A bundle of the right format, with its description read and all members at hand. -/
structure Opened where
  description : Json
  registers : Bytes
  wram : Bytes
  hram : Bytes
  vram : Bytes
  oam : Bytes
  devices : Bytes
  externalRam : Bytes

/-- The description of a bundle of the right format. -/
def readDescription (bundle : Bundle) : Except Error Json := do
  let description ← bundle.document
  let found ← (description.member "magic" .null).mapError .misfit
  if !found.same (.string magic) then
    throw (.bundle .magic)
  let found ← (description.intMember "version" (-1)).mapError .misfit
  if found ≠ version then
    throw (.bundle .version)
  return description

/-- Opens a bundle. The description is looked at first, then the members in order. -/
def open? (bundle : Bundle) : Except Error Opened := do
  let description ← bundle.readDescription
  return {
    description
    registers := ← bundle.payload .registers
    wram := ← bundle.payload .wram
    hram := ← bundle.payload .hram
    vram := ← bundle.payload .vram
    oam := ← bundle.payload .oam
    devices := ← bundle.payload .devices
    externalRam := ← bundle.payload .externalRam }

end Bundle

namespace Console

/-- The registers and latches of the processor. -/
def registers (console : Console) : Cpu.Snapshot :=
  .ofCore console.core

/-- The serial link as a description holds it. -/
def savedSerial (serial : Serial) : Json :=
  .object [
    ("sb", .int serial.sb.value),
    ("sc", .int serial.sc.value),
    ("output", .string (Text.hexOfBytes serial.output))]

/-- The latches of the processor as a description holds them. -/
def savedLatches (cpu : Cpu) : Json :=
  .object [
    ("ei_pending", .bool cpu.eiPending),
    ("halted", .bool cpu.halted),
    ("stopped", .bool cpu.stopped),
    ("halt_bug", .bool cpu.haltBug)]

/-- The cartridge as a description holds it. -/
def savedCartridge (cartridge : Cartridge) : Json :=
  .object [
    ("identity", .string cartridge.identity),
    ("mapper", .string cartridge.mapper.name),
    ("banks", cartridge.savedBanks),
    ("ram_size", .int cartridge.ram.size)]

/-- The description of a bundle saved at a time that the host gives. -/
def description (created : String) (console : Console) : Json :=
  .object [
    ("magic", .string Bundle.magic),
    ("version", .int Bundle.version),
    ("created", .string created),
    ("instruction_count", .int console.cpu.instructionCount),
    ("cycle_count", .int console.timeline),
    ("memory_reads", .int console.memory.readCount),
    ("memory_writes", .int console.memory.writeCount),
    ("pc", .int console.cpu.registers.pc),
    ("cpu", savedLatches console.cpu),
    ("interrupts", console.interrupts.saved),
    ("timer", console.memory.timer.saved),
    ("serial", savedSerial console.memory.peripherals.serial),
    ("joypad", console.memory.peripherals.joypad.saved),
    ("cartridge", savedCartridge console.cartridge)]

/-- Saves a console. This fails only if a register holds a number that does not fit its place. -/
def save (created : String) (console : Console) : Except Error Bundle := do
  let registers ← console.registers.pack
  let memory := console.memory
  return {
    description := some (.document (console.description created))
    payloads := [
      (Member.registers.name, registers),
      (Member.wram.name, memory.wram.toArray),
      (Member.hram.name, memory.hram.toArray),
      (Member.vram.name, memory.peripherals.vram.data.toArray),
      (Member.oam.name, memory.peripherals.oam.data.toArray),
      (Member.devices.name, (memory.devices console.interrupts).toArray),
      (Member.externalRam.name, console.cartridge.ram)] }

end Console

end Handheld
