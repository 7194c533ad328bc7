import Handheld.Memory.Basic
import Handheld.Report.Basic

/-!
Reports on cartridges, on memory and on what is attached to the board.
-/

namespace Handheld.Report

/-- The fields of a cartridge header. -/
def header (header : Cartridge.Header) : Json :=
  .object [
    ("title", .string header.title),
    ("cartridge_type", .int header.typeCode.value),
    ("mapper", .string header.mapper.name),
    ("rom_banks", .int header.romBanks),
    ("ram_size", .int header.ramSize),
    ("battery", .bool header.battery),
    ("header_checksum", .int header.headerChecksum.value),
    ("global_checksum", .int header.globalChecksum.value),
    ("header_checksum_valid", .bool header.checksumValid),
    ("rom_size", .int header.romSize),
    ("ram_banks", .int header.ramBanks)]

/-- The bank registers of a cartridge and what they select. -/
def cartridge (cartridge : Cartridge) : Json :=
  .object [
    ("rom_bank", .int cartridge.romBank),
    ("rom_bank0", .int cartridge.lowRomBank),
    ("ram_bank", .int cartridge.ramBank),
    ("ram_enabled", bit cartridge.ramEnabled),
    ("rom_bank_register", .int cartridge.romBankRegister),
    ("ram_bank_register", .int cartridge.ramBankRegister),
    ("banking_mode", .int cartridge.bankingMode),
    ("ram", digest [cartridge.ram])]

/-- The same in short: the selected banks, the gate and the registers. -/
def banks (cartridge : Cartridge) : Json :=
  ints [cartridge.romBank, cartridge.ramBank, cartridge.ramEnabled.toNat,
    cartridge.romBankRegister, cartridge.ramBankRegister, cartridge.bankingMode]

/-- A part of external memory. -/
def ramPart (offset count : Int) (cartridge : Cartridge) : Json :=
  bytes (part cartridge.ram offset (offset + count)).toList

/-- One access of a log. -/
def access (kind : String) (access : Memory.Access) : Json :=
  .array [.string kind, .int access.address.val, .int access.value.value, .string access.region]

/-- Logged reads and writes. -/
def accesses (reads writes : List Memory.Access) : Json :=
  .object [
    ("reads", .array (reads.map (access "read"))),
    ("writes", .array (writes.map (access "write")))]

/-- The access logs of a memory. -/
def logs (memory : Memory) : Json :=
  accesses memory.log.reads.entries memory.log.writes.entries

/-- The windows of the display and sound circuits under their names. -/
def windows (peripherals : Peripherals) : Json :=
  .object [
    (peripherals.vram.name, sized peripherals.vram.data.toArray),
    (peripherals.oam.name, sized peripherals.oam.data.toArray),
    (peripherals.audio.name, sized peripherals.audio.data.toArray),
    (peripherals.video.name, sized peripherals.video.data.toArray)]

/-- All memories but external memory, in the usual order. -/
def memories (memory : Memory) : List Bytes :=
  let p := memory.peripherals
  [memory.wram.toArray, memory.hram.toArray, p.vram.data.toArray, p.oam.data.toArray,
    p.audio.data.toArray, p.video.data.toArray]

/-- The registers of the timer. -/
def timer (timer : Timer) : List Int :=
  [timer.divider.value, timer.tima.value, timer.tma.value, timer.control.value]

/-- The state of a memory and its interrupt controller. -/
def memory (memory : Memory) (interrupts : Interrupts) : Json :=
  .object [
    ("counts", ints [memory.readCount, memory.writeCount]),
    ("mem", .array ((memories memory).map fun part => digest [part])),
    ("irq", ints [interrupts.readEnable, interrupts.readRequests]),
    ("timer", ints (timer memory.timer)),
    ("cart", cartridge memory.cartridge)]

/-- The registers of the serial link and the bytes sent. -/
def serial (serial : Serial) : List (Text × Json) :=
  [("sb", .int serial.sb.value), ("sc", .int serial.sc.value), ("output", hexed serial.output)]

end Handheld.Report
