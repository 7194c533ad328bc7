import Handheld.Cartridge.Basic
import Handheld.Memory.AccessLog
import Handheld.Peripherals

/-!
The machine's memory: everything behind the bus. No access fails; where nothing answers, a read
gives ones and a write is lost.
-/

namespace Handheld

/-- Everything behind the bus, with counters and logs of the accesses to it. -/
structure Memory where
  cartridge : Cartridge
  timer : Timer := {}
  peripherals : Peripherals := {}
  wram : Vector Byte 0x2000 := Vector.replicate 0x2000 0
  hram : Vector Byte 0x7F := Vector.replicate 0x7F 0
  readCount : Int := 0
  writeCount : Int := 0
  log : Memory.AccessLog

namespace Memory

/-- Clears the memories of the board, the counters and the logs. Devices are left alone. -/
def reset (memory : Memory) : Memory :=
  { memory with
    wram := Vector.replicate 0x2000 0
    hram := Vector.replicate 0x7F 0
    readCount := 0
    writeCount := 0
    log := memory.log.clear }

/-- The byte at a place. -/
def get (memory : Memory) (interrupts : Interrupts) : Place → Byte
  | .rom address => memory.cartridge.readRom address
  | .vram offset => memory.peripherals.vram.get offset
  | .cartridgeRam offset => memory.cartridge.readRam offset
  | .wram offset => Vector.get memory.wram offset
  | .oam offset => memory.peripherals.oam.get offset
  | .joypad => memory.peripherals.joypad.read
  | .serial register => memory.peripherals.serial.get register
  | .timer register => memory.timer.get register
  | .interruptRequests => Byte.ofInt interrupts.readRequests
  | .audio offset => memory.peripherals.audio.get offset
  | .video offset => memory.peripherals.video.get offset
  | .deadArea | .vacant => Cartridge.openBus
  | .hram offset => Vector.get memory.hram offset
  | .interruptEnable => interrupts.enable

/-- Changes what is attached to the board. -/
def onPeripherals (change : Peripherals → Peripherals) (memory : Memory) : Memory :=
  { memory with peripherals := change memory.peripherals }

/-- A write of a byte to a place. -/
def set (memory : Memory) (place : Place) (value : Byte) (interrupts : Interrupts)
    : Interrupts × Memory :=
  match place with
  | .rom address =>
    (interrupts, { memory with cartridge := memory.cartridge.control address value })
  | .vram offset =>
    (interrupts, memory.onPeripherals fun p => { p with vram := p.vram.set offset value })
  | .cartridgeRam offset =>
    (interrupts, { memory with cartridge := memory.cartridge.writeRam offset value })
  | .wram offset =>
    (interrupts, { memory with wram := memory.wram.set offset value offset.isLt })
  | .oam offset =>
    (interrupts, memory.onPeripherals fun p => { p with oam := p.oam.set offset value })
  | .joypad =>
    (interrupts,
      memory.onPeripherals fun p => { p with joypad := p.joypad.write value.value })
  | .serial register =>
    let (serial, interrupts) := memory.peripherals.serial.set register value interrupts
    (interrupts, memory.onPeripherals fun p => { p with serial })
  | .timer register =>
    (interrupts, { memory with timer := memory.timer.set register value })
  | .interruptRequests => (interrupts.writeRequests value.value, memory)
  | .audio offset =>
    (interrupts, memory.onPeripherals fun p => { p with audio := p.audio.set offset value })
  | .video offset =>
    (interrupts, memory.onPeripherals fun p => { p with video := p.video.set offset value })
  | .deadArea | .vacant => (interrupts, memory)
  | .hram offset =>
    (interrupts, { memory with hram := memory.hram.set offset value offset.isLt })
  | .interruptEnable => ({ interrupts with enable := value }, memory)

/-- Reads an address without counting or logging the access. -/
def peek (memory : Memory) (interrupts : Interrupts) (address : Int) : Byte :=
  memory.get interrupts (place (Address.ofInt address))

/-- Reads an address. -/
def read (memory : Memory) (address : Int) (interrupts : Interrupts) : Byte × Memory :=
  let value := memory.peek interrupts address
  (value,
    { memory with
      readCount := memory.readCount + 1
      log := memory.log.noteRead (Address.ofInt address) value })

/-- Writes the low byte of a number to an address. The access is logged before it happens. -/
def write (memory : Memory) (address value : Int) (interrupts : Interrupts)
    : Interrupts × Memory :=
  let address := Address.ofInt address
  let byte := Byte.ofInt value
  let noted := { memory with
    writeCount := memory.writeCount + 1
    log := memory.log.noteWrite address byte }
  noted.set (place address) byte interrupts

/-- Reads two bytes, the low one first. -/
def readWord (memory : Memory) (address : Int) (interrupts : Interrupts) : Int × Memory :=
  let (low, memory) := memory.read address interrupts
  let (high, memory) := memory.read (address + 1) interrupts
  (high.value * 256 + low.value, memory)

/-- Writes two bytes, the low one first. -/
def writeWord (memory : Memory) (address value : Int) (interrupts : Interrupts)
    : Interrupts × Memory :=
  let (interrupts, memory) := memory.write address value interrupts
  memory.write (address + 1) (value / 256) interrupts

/-- The device area as the processor would read it. -/
def devices (memory : Memory) (interrupts : Interrupts) : List Byte :=
  (List.range 0x80).map fun (offset : Nat) => memory.peek interrupts (0xFF00 + offset)

/-- The machine's memory as the processor sees it. -/
def bus : Cpu.Bus Memory where
  read address interrupts memory :=
    let (value, memory) := memory.read address interrupts
    (value.value, interrupts, memory)
  write address value interrupts memory := memory.write address value interrupts

end Memory

end Handheld
