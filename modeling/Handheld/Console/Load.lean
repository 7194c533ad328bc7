import Handheld.Console.Bundle
import Handheld.Json.Bytes

/-!
Loading a bundle into a console. The format, the cartridge and the sizes of three members are
looked at before anything changes; whatever is found wrong after that leaves what has been taken
over so far.
-/

namespace Handheld.Console

/-- Carries out an action on the memory. -/
def inMemory (action : Attempt Memory Unit) : Attempt Console Unit :=
  Attempt.on memory (fun memory => onMemory fun _ => memory) action

/-- Replaces the bytes of a window. -/
def restoreWindow {size : Nat} (window : Peripherals → Window size)
    (put : Window size → Peripherals → Peripherals) (bytes : Bytes) : Attempt Memory Unit :=
  Attempt.replace fun memory => do
    let restored ← (window memory.peripherals).restore bytes
    return memory.onPeripherals (put restored)

/-- A table of the description; where it is missing, an empty one. -/
def table (description : Json) (name : String) : Attempt Console Json :=
  Attempt.expect (description.member name (.object []))

/-- Takes over the serial link, all at once. -/
def restoreSerial (state : Json) : Attempt Memory Unit := do
  let sb ← Attempt.expect (state.intMember "sb" 0)
  let sc ← Attempt.expect (state.intMember "sc" 0)
  let output ← Attempt.expect (state.member "output" (.string ""))
  let output ← Attempt.expect output.toSpelledBytes
  modify fun memory => memory.onPeripherals fun p =>
    { p with serial := p.serial.restore sb sc output }

/-- Takes over the memories and the counters of accesses. -/
def restoreMemories (opened : Bundle.Opened) (wram : Vector Byte 0x2000)
    (hram : Vector Byte 0x7F) : Attempt Memory Unit := do
  modify fun memory => { memory with wram, hram }
  let readCount ← Attempt.expect (opened.description.intMember "memory_reads" 0)
  modify fun memory => { memory with readCount }
  let writeCount ← Attempt.expect (opened.description.intMember "memory_writes" 0)
  modify fun memory => { memory with writeCount }
  restoreWindow (·.vram) (fun vram p => { p with vram }) opened.vram
  restoreWindow (·.oam) (fun oam p => { p with oam }) opened.oam
  restoreWindow (·.audio) (fun audio p => { p with audio }) (opened.devices.extract 0x10 0x40)
  restoreWindow (·.video) (fun video p => { p with video }) (opened.devices.extract 0x40 0x4C)

/-- Takes over the cartridge's memory and bank registers. -/
def restoreCartridge (cartridge : Json) (ram : Bytes) : Attempt Console Unit := do
  Attempt.replace (restoreRam ram)
  let banks ← table cartridge "banks"
  inMemory (Attempt.on Memory.cartridge (fun cartridge memory => { memory with cartridge })
    (Cartridge.restoreBanks banks))

/-- Takes over the serial link, the joypad, the timer and the interrupt controller, in this
order. -/
def restoreDevices (description : Json) : Attempt Console Unit := do
  inMemory (restoreSerial (← table description "serial"))
  let joypad ← table description "joypad"
  inMemory (Attempt.on (·.peripherals.joypad)
    (fun joypad memory => memory.onPeripherals fun p => { p with joypad })
    (Joypad.restore joypad))
  let timer ← table description "timer"
  inMemory (Attempt.on Memory.timer (fun timer memory => { memory with timer })
    (Timer.restore timer))
  let state ← table description "interrupts"
  Attempt.on interrupts (fun interrupts => onInterrupts fun _ => interrupts)
    (Interrupts.restore state)

/-- Takes over the registers and latches of the processor. -/
def restoreCpu (description : Json) (registers : Cpu.Snapshot) : Attempt Console Unit := do
  let latches ← table description "cpu"
  let latch (name : String) : Attempt Console Bool :=
    Attempt.expect (latches.switchMember name false)
  let eiPending ← latch "ei_pending"
  let halted ← latch "halted"
  let stopped ← latch "stopped"
  let haltBug ← latch "halt_bug"
  modify fun console =>
    let ime := console.interrupts.master
    console.onCore
      { registers with ime, eiPending, halted, stopped, haltBug }.applyTo

/-- Takes over the count of instructions and the position on the time line, and forgets what ended
all execution. -/
def restoreCounts (description : Json) : Attempt Console Unit := do
  let instructionCount ← Attempt.expect (description.intMember "instruction_count" 0)
  modify (onCpu fun cpu => { cpu with instructionCount })
  let cycles ← Attempt.expect (description.intMember "cycle_count" 0)
  modify fun console =>
    { console with cycleOffset := console.clock.cycles - cycles, fault := none }

/-- The part of a description that tells about the cartridge, which has to be the console's. -/
def checkCartridge (description : Json) : Attempt Console Json := do
  let cartridge ← table description "cartridge"
  let found ← Attempt.expect (cartridge.member "identity" .null)
  let expected := (← get).cartridge.identity
  if !found.same (.string expected) then
    throw (.bundle (.otherCartridge found expected))
  return cartridge

/-- A member's bytes as a memory of a fixed size. -/
def sized (size : Nat) (refusal : BundleRefusal) (bytes : Bytes)
    : Attempt Console (Vector Byte size) :=
  if h : bytes.size = size then pure ⟨bytes, h⟩ else throw (.bundle refusal)

/-- Takes over everything but the counts from what has been saved somewhere, if anything. The answer
is its description. -/
def takeOver (saved : Option Bundle) : Attempt Console Json := do
  let opened ←
    match saved.map Bundle.open? with
    | none => throw (.bundle .absent)
    | some (.ok opened) => pure opened
    | some (.error error) => throw error
  let description := opened.description
  let cartridge ← checkCartridge description
  let wram ← sized 0x2000 .workRamSize opened.wram
  let hram ← sized 0x7F .highRamSize opened.hram
  let registers ←
    match Cpu.Snapshot.unpack opened.registers with
    | .ok registers => pure registers
    | .error error => throw error
  inMemory (restoreMemories opened wram hram)
  restoreCartridge cartridge opened.externalRam
  restoreDevices description
  restoreCpu description registers
  return description

/-- Loads what has been saved somewhere, if anything. The clock is not turned back; the saved count
of cycles becomes the position on the time line. -/
def load (saved : Option Bundle) : Attempt Console Unit := do
  restoreCounts (← takeOver saved)

end Handheld.Console
