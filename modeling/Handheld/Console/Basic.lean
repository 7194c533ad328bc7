import Handheld.Cpu.Clocked
import Handheld.Memory.Basic
import Handheld.Settings.Basic
import Handheld.Settings.Environment

/-!
The console: processor, memory and clock wired up, with everything a host can do to them between
two steps. A console announces what happens as events, which wait in its outbox until someone
delivers them.
-/

namespace Handheld

/-- The state of a console. -/
structure Console extends Cpu.Clocked Memory where
  settings : Settings := {}
  /-- The undefined opcode that ended all execution. -/
  fault : Option Cpu.Fault := none
  /-- The next run is to end before its next step. -/
  stopRequested : Bool := false
  /-- Whether steps are announced. -/
  announcing : Bool := false
  /-- Whether the console has begun a trace itself. -/
  ownsTrace : Bool := false
  /-- The mapped banks that were announced last. -/
  announcedBanks : Int × Int := (-1, -1)
  /-- By how much the clock is ahead of the time line of the last loaded bundle. -/
  cycleOffset : Int := 0
  /-- The events not yet delivered, the latest first. -/
  outbox : List Trace.Event := []

namespace Console

/-- The processor. -/
def cpu (console : Console) : Cpu :=
  console.core.cpu

/-- The interrupt controller. -/
def interrupts (console : Console) : Interrupts :=
  console.core.interrupts

/-- Everything behind the bus. -/
def memory (console : Console) : Memory :=
  console.core.memory

/-- The cartridge. -/
def cartridge (console : Console) : Cartridge :=
  console.memory.cartridge

/-- Changes the core. -/
def onCore (change : Cpu.Core Memory → Cpu.Core Memory) (console : Console) : Console :=
  { console with core := change console.core }

/-- Changes the processor. -/
def onCpu (change : Cpu → Cpu) : Console → Console :=
  onCore fun core => { core with cpu := change core.cpu }

/-- Changes the interrupt controller. -/
def onInterrupts (change : Interrupts → Interrupts) : Console → Console :=
  onCore fun core => { core with interrupts := change core.interrupts }

/-- Changes the memory. -/
def onMemory (change : Memory → Memory) : Console → Console :=
  onCore fun core => { core with memory := change core.memory }

/-- Puts events into the outbox, in order. -/
def announce (events : List Trace.Event) (console : Console) : Console :=
  { console with outbox := events.reverse ++ console.outbox }

/-- Cycles since the console was built. -/
def cycleCount (console : Console) : Int :=
  console.clock.cycles

/-- The position on the time line of the last loaded bundle. -/
def timeline (console : Console) : Int :=
  console.clock.cycles - console.cycleOffset

/-- The mapped banks of program and external memory. -/
def banks (console : Console) : Int × Int :=
  (console.cartridge.romBank, console.cartridge.ramBank)

/-- Everything behind the bus as it is after power-on. External memory is kept. -/
def powerOnMemory (memory : Memory) : Memory :=
  { memory.reset with
    cartridge := memory.cartridge.reset
    timer := {}
    peripherals := memory.peripherals.reset }

/-- Switches the console off and on. The clock keeps counting. -/
def reset (console : Console) : Console :=
  { console with
    core :=
      { cpu := Cpu.powerOn
        interrupts := .powerOn
        memory := powerOnMemory console.memory }
    fault := none
    stopRequested := false }

/-- Announces a trace and the current time. From here on all steps are announced, even if the path
turns out to be no text. -/
def startTracing (path : Json) : Attempt Console Unit := do
  modify fun console => { console with announcing := true, ownsTrace := true }
  match path with
  | .string path =>
    modify fun console =>
      console.announce [.start path, .clock (.int console.clock.cycles)]
  | _ => throw (.misfit .wrongSort)

/-- Announces the end of a trace that the console began itself. Steps are no longer announced. -/
def stopTracing (console : Console) : Console :=
  let ended := if console.ownsTrace then console.announce [.stop] else console
  { ended with ownsTrace := false, announcing := false }

/-- Whether the access logs of a new console are switched on without a limit of their own. -/
def logLimit (settings : Settings) (wishes : Settings.Wishes) : Int :=
  if settings.accessLogLimit = 0 ∧ wishes.memoryLog then Memory.AccessLog.usualLimit
  else settings.accessLogLimit

/-- A new console with a cartridge in it. -/
def ofCartridge (cartridge : Cartridge) (settings : Settings) (wishes : Settings.Wishes)
    : Except Error Console := do
  let log ← (Memory.AccessLog.ofLimit (logLimit settings wishes)).mapError .log
  let serial : Serial := { listening := settings.serialEcho }
  let memory : Memory := { cartridge, log, peripherals := { serial } }
  let console : Console :=
    { core := { cpu := Cpu.powerOn, interrupts := {}, memory }
      settings := settings }
  let console := console.reset
  if settings.traceEnabled || wishes.trace then
    let path := if settings.tracePath.isOn then settings.tracePath else wishes.tracePath
    let (outcome, console) := (startTracing path).perform console
    outcome.map fun _ => console
  else
    return console

/-- Asks the next run to end before its next step. -/
def requestStop (console : Console) : Console :=
  { console with stopRequested := true }

/-- Raises an interrupt request from outside. -/
def requestInterrupt (source : Source) : Console → Console :=
  onInterrupts (·.request source)

/-- Changes the joypad, which may raise an interrupt request. -/
def onJoypad (change : Joypad → Interrupts → Joypad × Interrupts) : Console → Console :=
  onCore fun core =>
    let (joypad, interrupts) := change core.memory.peripherals.joypad core.interrupts
    { core with interrupts, memory := core.memory.onPeripherals fun p => { p with joypad } }

/-- Holds a key down. -/
def press (key : Key) : Console → Console :=
  onJoypad (Joypad.press key)

/-- Lets a key go. -/
def release (key : Key) : Console → Console :=
  onJoypad fun joypad interrupts => (joypad.release key, interrupts)

/-- Lets all keys go. -/
def releaseAll : Console → Console :=
  onJoypad fun joypad interrupts => (joypad.releaseAll, interrupts)

/-- Reads an address as the processor would. -/
def read (address : Int) (console : Console) : Byte × Console :=
  let (value, memory) := console.memory.read address console.interrupts
  (value, console.onMemory fun _ => memory)

/-- Writes an address as the processor would. -/
def write (address value : Int) : Console → Console :=
  onCore fun core =>
    let (interrupts, memory) := core.memory.write address value core.interrupts
    { core with interrupts, memory }

/-- Replaces external memory. -/
def restoreRam (bytes : Bytes) (console : Console) : Except Error Console := do
  let cartridge ← console.cartridge.restoreRam bytes
  return console.onMemory fun memory => { memory with cartridge }

end Console

end Handheld
