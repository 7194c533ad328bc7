import Handheld.Desk
import Handheld.Report.Board
import Handheld.Report.Cpu

/-!
Reports on consoles, bundles, captured states, traces and scenarios.
-/

namespace Handheld.Report

/-- The state of a console, if its registers can be told. -/
def console (tampered : Tampered) : Except Misfit Json := do
  let console := tampered.console
  let memory := console.memory
  let interrupts := console.interrupts
  let counts := Source.all.map interrupts.counts.get
  let serialPort := memory.peripherals.serial
  return .object [
    ("cpu", .array ((← pointers tampered.panel) ++ latches console.core)),
    ("cycles", ints [console.cycleCount, console.timeline, console.cpu.instructionCount]),
    ("irq", ints ([interrupts.readEnable, interrupts.readRequests] ++ counts)),
    ("timer", ints (timer memory.timer ++ [memory.timer.prescaler, memory.timer.overflows])),
    ("cart", banks console.cartridge),
    ("counts", ints [memory.readCount, memory.writeCount]),
    ("serial", .array ((serial serialPort).map (·.2))),
    ("mem", digest (memories memory ++ [console.cartridge.ram])),
    ("fault", text? (console.fault.map Cpu.Fault.message))]

/-- A row that tells about a console after a step that took some cycles. -/
def row (cycles : Int) (tampered : Tampered) : Except Misfit Json := do
  let core := tampered.console.core
  return .array ((← rowStart cycles core tampered.panel) ++ latches core)

/-- Registers, flags and counters of a console. -/
def cpuState (tampered : Tampered) : Except Misfit Json := do
  let { console, .. } := tampered
  let panel := tampered.panel
  let pairs ← [Cpu.Register16.af, .bc, .de, .hl].mapM fun pair => do
    let name := Cpu.RegisterName.word pair
    return (name.text, ← panel.read name)
  return named (panel.strays.fields panel.registers ++ pairs ++ [
    ("flags", flags (← panel.flags)),
    ("ime", .bool console.interrupts.master), ("halted", .bool console.cpu.halted),
    ("stopped", .bool console.cpu.stopped), ("cycles", .int console.cycleCount),
    ("instruction_count", .int console.cpu.instructionCount)])

/-- A bundle. The time of saving is left out of the description; it is only told whether that time
is in universal time. -/
def bundle (bundle : Bundle) : Json :=
  let description :=
    match bundle.document with
    | .ok (.object members) => members
    | _ => []
  let isUtc :=
    match description.lookup ("created" : Text) with
    | some (.string time) => time.points.getLast? = some (.char 'Z')
    | _ => false
  let payload (member : Member) : List Byte :=
    ((bundle.payloads.lookup (member.name : Text)).getD #[]).toList
  .object [
    ("meta", .object (description.filter fun (key, _) => key ≠ "created")),
    ("created_utc", .bool isUtc),
    ("registers", hexed (payload .registers)),
    ("io", hexed (payload .devices)),
    ("payloads", .object (bundle.payloads.map fun (name, data) => (name, sized data)))]

/-- The interrupt controller in a captured state. -/
def interruptState (interrupts : Console.InterruptState) : Json :=
  .object [("ie", .int interrupts.enable), ("if_", .int interrupts.requests),
    ("ime", .bool interrupts.ime)]

/-- The serial link in a captured state. -/
def serialState (serial : Console.SerialState) : Json :=
  .object [("sb", .int serial.sb.value), ("sc", .int serial.sc.value),
    ("output", sized serial.output.toArray)]

/-- A captured state. -/
def capture (capture : Capture) : Json :=
  let state := capture.state
  let cpu := state.cpu
  let timer := state.timer
  let cartridge := state.cartridge
  .object [
    ("cpu", .object [
      ("registers", named capture.registerFields), ("flags", flags cpu.registers.flags),
      ("ime", .bool cpu.ime), ("ei_pending", .bool cpu.eiPending),
      ("halted", .bool cpu.halted), ("stopped", .bool cpu.stopped),
      ("cycles", .int cpu.cycles), ("instruction_count", .int cpu.instructionCount)]),
    ("interrupts", interruptState state.interrupts),
    ("timer", numbers [("divider", timer.divider), ("tima", timer.tima), ("tma", timer.tma),
      ("tac", timer.tac)]),
    ("memory", .object [
      ("wram", sized state.memory.wram), ("hram", sized state.memory.hram)]),
    ("cartridge", .object [
      ("rom_bank", .int cartridge.romBank), ("ram_bank", .int cartridge.ramBank),
      ("ram_enabled", .bool cartridge.ramEnabled), ("external_ram", sized cartridge.externalRam)]),
    ("serial", serialState state.serial)]

/-- The content of a field. -/
def content : Console.Content → Json
  | .number value => .int value
  | .switch on => .bool on
  | .note text => .string text

/-- Differences between two states, in groups. -/
def differences (registers : List (Cpu.Change Json)) (differences : Console.Differences) : Json :=
  let group (fields : List Console.Difference) : List Json :=
    fields.map fun field => .array [.string field.name, content field.before, content field.after]
  let changed := registers.map fun change =>
    Json.array [.string ("registers." ++ change.name), change.before, change.after]
  .object [
    ("empty", .bool (registers.isEmpty && differences.isEmpty)),
    ("serial_changed", .bool differences.serial),
    ("cpu", .array (changed ++ group differences.cpu)),
    ("interrupts", .array (group differences.interrupts)),
    ("timer", .array (group differences.timer)),
    ("memory", .array (group differences.memory)),
    ("cartridge", .array (group differences.cartridge))]

/-- What has changed from one capture to another. -/
def comparedCaptures (before after : Capture) : Json :=
  differences (before.registerChanges after) (before.otherDifferences after)

/-- An event that a keeper has kept. -/
def event (keeper : Label) (event : Trace.Event) : Json :=
  .array [keeper.toJson, .string event.kind.name, event.thread, event.name, event.payload]

/-- Kept events in the order of their delivery. -/
def events (kept : List (Label × Trace.Event)) : Json :=
  .array (kept.map fun (keeper, kept) => event keeper kept)

/-- A call on a trace builder. A trace that could not be stored is not told. -/
def call? : Trace.Call → Option Json
  | .builder title => some (names ["builder", title])
  | .thread name id => some (.array [.string "thread", name, .int id])
  | .counterTrack name unit id =>
    some (.array [.string "counter_track", name, .string unit, .int id])
  | .instant track name time => some (.array [.string "instant", .int track, name, .int time])
  | .annotate details => some (.array [.string "annotate", details])
  | .update track value time => some (.array [.string "update", .int track, value, .int time])
  | .save path stored => if stored then some (.array [.string "save", path]) else none

/-- Calls in the order in which they were made, whatever builders they were made on. -/
def calls (entries : List Trace.Entry) : Json :=
  .array (entries.filterMap fun entry => call? entry.call)

/-- Where a machine stands after a move. -/
def standing (standing : Standing) : Json :=
  let timer := standing.timer
  .object [
    ("cpu", .object [
      ("registers", registers standing.registers), ("flags", flags standing.registers.flags),
      ("ime", .bool standing.interrupts.ime), ("halted", .bool standing.halted),
      ("cycles", .int standing.cycleCount),
      ("instruction_count", .int standing.instructionCount)]),
    ("interrupts", interruptState standing.interrupts),
    ("timer", numbers [("div", timer.div.value), ("tima", timer.tima.value),
      ("tma", timer.tma.value), ("tac", timer.control.value),
      ("overflow_count", timer.overflows)]),
    ("serial", serialState standing.serial),
    ("rom_bank", .int standing.romBank),
    ("ram_bank", .int standing.ramBank),
    ("memory_access_log", accesses standing.reads standing.writes),
    ("executed_instructions", standing.executed),
    ("cycle_count", .int standing.cycleCount),
    ("metadata", .object standing.metadata)]

end Handheld.Report
