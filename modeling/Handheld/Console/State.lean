import Handheld.Console.Basic

/-!
Captured states of a console and the differences between two of them.
-/

namespace Handheld.Console

/-- The processor in a captured state. -/
structure CpuState where
  registers : Cpu.Registers
  ime : Bool
  eiPending : Bool
  halted : Bool
  stopped : Bool
  /-- The position on the time line. -/
  cycles : Int
  instructionCount : Int
  deriving DecidableEq, Repr

/-- The interrupt controller in a captured state, as the bus shows it. -/
structure InterruptState where
  enable : Int
  requests : Int
  ime : Bool
  deriving DecidableEq, Repr

/-- The timer in a captured state. -/
structure TimerState where
  divider : Int
  tima : Int
  tma : Int
  tac : Int
  deriving DecidableEq, Repr

/-- The memories of the board in a captured state. -/
structure MemoryState where
  wram : Bytes
  hram : Bytes
  deriving DecidableEq, Repr

/-- The cartridge in a captured state. -/
structure CartridgeState where
  romBank : Int
  ramBank : Int
  ramEnabled : Bool
  externalRam : Bytes
  deriving DecidableEq, Repr

/-- The serial link in a captured state. -/
structure SerialState where
  sb : Byte
  sc : Byte
  output : List Byte
  deriving DecidableEq, Repr

/-- A captured state of a console. -/
structure State where
  cpu : CpuState
  interrupts : InterruptState
  timer : TimerState
  memory : MemoryState
  cartridge : CartridgeState
  serial : SerialState
  deriving DecidableEq, Repr

/-- The interrupt controller as it is now. -/
def interruptState (console : Console) : InterruptState where
  enable := console.interrupts.readEnable
  requests := console.interrupts.readRequests
  ime := console.interrupts.master

/-- The serial link as it is now. -/
def serialState (console : Console) : SerialState :=
  let serial := console.memory.peripherals.serial
  { sb := serial.sb, sc := serial.sc, output := serial.output }

/-- The state of a console as it is now. -/
def capture (console : Console) : State where
  cpu :=
    { registers := console.cpu.registers.settled
      ime := console.interrupts.master
      eiPending := console.cpu.eiPending
      halted := console.cpu.halted
      stopped := console.cpu.stopped
      cycles := console.timeline
      instructionCount := console.cpu.instructionCount }
  interrupts := console.interruptState
  timer :=
    let timer := console.memory.timer
    { divider := timer.divider.value
      tima := timer.tima.value
      tma := timer.tma.value
      tac := timer.control.value }
  memory :=
    { wram := console.memory.wram.toArray
      hram := console.memory.hram.toArray }
  cartridge :=
    { romBank := console.cartridge.romBank
      ramBank := console.cartridge.ramBank
      ramEnabled := console.cartridge.ramEnabled
      externalRam := console.cartridge.ram }
  serial := console.serialState

/-- The content of a field, as far as a difference tells it. -/
inductive Content
  | number (value : Int)
  | switch (on : Bool)
  | note (text : String)
  deriving DecidableEq, Repr

/-- A field that differs, with its content before and after. -/
structure Difference where
  name : String
  before : Content
  after : Content
  deriving DecidableEq, Repr

/-- The differences between two states, grouped by what they belong to. -/
structure Differences where
  cpu : List Difference := []
  interrupts : List Difference := []
  timer : List Difference := []
  memory : List Difference := []
  cartridge : List Difference := []
  serial : Bool := false
  deriving DecidableEq, Repr

/-- Whether there is no difference at all. -/
def Differences.isEmpty (differences : Differences) : Bool :=
  differences.cpu.isEmpty && differences.interrupts.isEmpty && differences.timer.isEmpty
    && differences.memory.isEmpty && differences.cartridge.isEmpty && !differences.serial

/-- The fields whose contents differ between two lists of the same fields. -/
def compareFields (before after : List (String × Content)) : List Difference :=
  (before.zip after).filterMap fun ((name, old), (_, new)) =>
    if old = new then none else some ⟨name, old, new⟩

/-- The number of places at which two memories differ, as far as both reach. -/
def countChanges (before after : Bytes) : Nat :=
  ((before.toList.zip after.toList).filter fun (old, new) => old ≠ new).length

/-- A memory that differs, with the number of bytes that changed. -/
def compareBytes (name : String) (before after : Bytes) : List Difference :=
  if before = after then []
  else
    [⟨name, .note "<bytes>",
      .note ("<" ++ toString (countChanges before after) ++ " bytes changed>")⟩]

/-- The registers in alphabetical order. -/
def registerFields (r : Cpu.Registers) : List (String × Content) :=
  [("registers.a", .number r.a), ("registers.b", .number r.b), ("registers.c", .number r.c),
    ("registers.d", .number r.d), ("registers.e", .number r.e), ("registers.f", .number r.f),
    ("registers.h", .number r.h), ("registers.l", .number r.l), ("registers.pc", .number r.pc),
    ("registers.sp", .number r.sp)]

/-- The flags in alphabetical order, as zero or one. -/
def flagFields (flags : Cpu.Flags) : List (String × Content) :=
  [("flags.C", .number flags.c.toNat), ("flags.H", .number flags.h.toNat),
    ("flags.N", .number flags.n.toNat), ("flags.Z", .number flags.z.toNat)]

/-- All fields of the processor but its registers. -/
def CpuState.otherFields (cpu : CpuState) : List (String × Content) :=
  flagFields cpu.registers.flags
    ++ [("ime", .switch cpu.ime), ("ei_pending", .switch cpu.eiPending),
      ("halted", .switch cpu.halted), ("stopped", .switch cpu.stopped),
      ("cycles", .number cpu.cycles), ("instruction_count", .number cpu.instructionCount)]

/-- All fields of the processor. -/
def CpuState.fields (cpu : CpuState) : List (String × Content) :=
  registerFields cpu.registers ++ cpu.otherFields

/-- All fields of the interrupt controller. -/
def InterruptState.fields (interrupts : InterruptState) : List (String × Content) :=
  [("ie", .number interrupts.enable), ("if_", .number interrupts.requests),
    ("ime", .switch interrupts.ime)]

/-- All fields of the timer. -/
def TimerState.fields (timer : TimerState) : List (String × Content) :=
  [("divider", .number timer.divider), ("tima", .number timer.tima), ("tma", .number timer.tma),
    ("tac", .number timer.tac)]

/-- All fields of the cartridge but its memory. -/
def CartridgeState.fields (cartridge : CartridgeState) : List (String × Content) :=
  [("rom_bank", .number cartridge.romBank), ("ram_bank", .number cartridge.ramBank),
    ("ram_enabled", .switch cartridge.ramEnabled)]

/-- What has changed from one state to another. -/
def State.diff (before after : State) : Differences where
  cpu := compareFields before.cpu.fields after.cpu.fields
  interrupts := compareFields before.interrupts.fields after.interrupts.fields
  timer := compareFields before.timer.fields after.timer.fields
  memory :=
    compareBytes "wram" before.memory.wram after.memory.wram
      ++ compareBytes "hram" before.memory.hram after.memory.hram
  cartridge :=
    compareFields before.cartridge.fields after.cartridge.fields
      ++ compareBytes "external_ram" before.cartridge.externalRam after.cartridge.externalRam
  serial := before.serial ≠ after.serial

end Handheld.Console
