import Handheld.Cpu.FlatRam
import Handheld.Cpu.Hindered
import Handheld.Cpu.Sheet
import Handheld.Json.Members

/-!
The bench: a processor over flat memory in the hands of a host, who can change anything between two
steps, note the registers down on sheets and put them back.
-/

namespace Handheld.Cpu

/-- A processor on the bench, with what a host has left in it as far as no step has replaced it. -/
structure Bench where
  machine : Clocked (Recorded FlatRam)
  strays : Strays := []
  latches : Latches := {}
  /-- What is in the place of the count of instructions, if it is no whole number. -/
  tally : Option Json := none
  /-- Whether something is in the place of a part that cannot stand in for it. -/
  broken : Bool := false
  /-- Sheets by their names. -/
  sheets : List (Json × Sheet) := []

namespace Bench

/-- The processor with its memory and interrupt controller. -/
def core (bench : Bench) : Core (Recorded FlatRam) :=
  bench.machine.core

/-- The memory. -/
def ram (bench : Bench) : FlatRam :=
  bench.core.memory.memory

/-- Changes the core. -/
def onCore (change : Core (Recorded FlatRam) → Core (Recorded FlatRam)) (bench : Bench) : Bench :=
  { bench with machine := { bench.machine with core := change bench.machine.core } }

/-- Changes the processor. -/
def onCpu (change : Cpu → Cpu) : Bench → Bench :=
  onCore fun core => { core with cpu := change core.cpu }

/-- Changes the interrupt controller. -/
def onInterrupts (change : Interrupts → Interrupts) : Bench → Bench :=
  onCore fun core => { core with interrupts := change core.interrupts }

/-- Stores bytes in memory without the processor taking part. -/
def poke (address : Int) (bytes : List Byte) : Bench → Bench :=
  onCore fun core =>
    { core with memory.memory := core.memory.memory.setAll address bytes }

/-- The registers with what is in them. -/
def panel (bench : Bench) : Panel :=
  { registers := bench.core.cpu.registers, strays := bench.strays }

/-- Carries out an action on the registers. -/
def onPanel {α : Type} (action : Attempt Panel α) : Attempt Bench α :=
  Attempt.on panel
    (fun panel bench =>
      { bench with strays := panel.strays }.onCpu fun cpu =>
        { cpu with registers := panel.registers })
    action

/-- The registers and latches as they are now. -/
def sheet (bench : Bench) : Sheet :=
  .ofSnapshot (.ofCore bench.core) bench.strays bench.latches

/-- The count of instructions, or what is in its place. -/
def count (bench : Bench) : Json :=
  bench.tally.getD (.int bench.core.cpu.instructionCount)

/-- Leaves a value in the place of the count of instructions. -/
def setCount (value : Json) (bench : Bench) : Bench :=
  match value with
  | .number (.int instructionCount) =>
    { bench with tally := none }.onCpu fun cpu => { cpu with instructionCount }
  | value => { bench with tally := some value }

/-- One step without the count of instructions. Only its own writes are recorded. -/
def stepUncounted : Attempt Bench Nat :=
  Attempt.ofFunction fun bench =>
    let start := bench.onCore fun core => { core with memory.writes := [] }
    let (outcome, machine, strays) :=
      (Clocked.stepAmong FlatRam.bus.recorded).perform (start.machine, start.strays)
    let cpu := machine.core.cpu
    let idle := cpu.lastInstruction.isNone && cpu.lastInterrupt.isNone
      && machine.core.interrupts.master == start.core.interrupts.master
    let halfway := !outcome.isOk && cpu.lastInstruction.isSome
    let latches := start.latches.afterStep idle halfway (.ofCore machine.core)
    (outcome, { start with machine, strays, latches })

/-- One step. An instruction that cannot be counted has been carried out, but the clock stands
still. -/
def step : Attempt Bench Nat := do
  let start ← get
  let cycles ← stepUncounted
  if (← get).core.cpu.lastInstruction.isSome then
    match start.count.toNumber with
    | .ok count => modify (setCount (.number (count.add (.int 1))))
    | .error reason =>
      modify fun bench => { bench with machine.clock := start.machine.clock }
      throw (.misfit reason)
  return cycles

/-- The writes of the last step in their order. -/
def writes (bench : Bench) : List BusWrite :=
  bench.core.memory.writes.reverse

/-- Empties one of the records of the last step. They take no other value from a host. -/
def clearRecord (clear : Cpu → Cpu) (value : Json) (bench : Bench) : Bench :=
  match value with
  | .null => bench.onCpu clear
  | _ => { bench with broken := true }

/-- Leaves a value in the part of a given name, which is a latch in most cases. The master switch
belongs to the interrupt controller, and other names mean nothing to the processor. -/
def assignPart (name value : Json) : Attempt Bench Unit := do
  let .string name := name | throw (.misfit .wrongSort)
  match (← get).latches.set? name value with
  | some latches => modify fun bench => { bench with latches }.onCpu latches.applyTo
  | none =>
    if name = "ime" then throw (.misfit .notObject)
    else if name = "instruction_count" then modify (setCount value)
    else if name = "last_opcode" then
      modify (clearRecord (fun cpu => { cpu with lastInstruction := none }) value)
    else if name = "last_interrupt" then
      modify (clearRecord (fun cpu => { cpu with lastInterrupt := none }) value)
    else if name = "regs" ∨ name = "interrupts" then
      modify fun bench => { bench with broken := true }

/-- Resets the processor. Memory, interrupt controller and clock stay. -/
def reset (bench : Bench) : Bench :=
  { bench with strays := [], latches := {}, tally := none }.onCpu fun _ => .powerOn

/-- Notes registers and latches down under a name. -/
def save (name : Json) : Attempt Bench Unit := do
  let name ← Attempt.expect name.toKey
  modify fun bench => { bench with sheets := Json.insertPair bench.sheets (name, bench.sheet) }

/-- The sheet of a given name. -/
def find (name : Json) : Attempt Bench Sheet := do
  let name ← Attempt.expect name.toKey
  match Json.findPair? name (← get).sheets with
  | some sheet => return sheet
  | none => throw (.misfit .unknownName)

/-- Puts registers and latches back as they were noted down. -/
def apply (sheet : Sheet) (bench : Bench) : Bench :=
  { bench with strays := sheet.strays, latches := sheet.latches }.onCore sheet.snapshot.applyTo

end Bench

end Handheld.Cpu
