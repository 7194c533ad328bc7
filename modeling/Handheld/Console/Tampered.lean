import Handheld.Console.Load
import Handheld.Console.State
import Handheld.Console.Step
import Handheld.Cpu.Hindered
import Handheld.Cpu.Panel

/-!
Consoles whose registers a host has tampered with. Such a console does whatever needs no stray, and
keeps the strays until something replaces them.
-/

namespace Handheld

/-- A console, and the strays in its registers. -/
structure Tampered where
  console : Console
  strays : Cpu.Strays := []

namespace Tampered

/-- The registers with what is in them. -/
def panel (tampered : Tampered) : Cpu.Panel :=
  { registers := tampered.console.cpu.registers, strays := tampered.strays }

/-- Carries out an action on the registers. -/
def onPanel {α : Type} (action : Attempt Cpu.Panel α) : Attempt Tampered α :=
  Attempt.on panel
    (fun panel tampered =>
      { console := tampered.console.onCpu fun cpu => { cpu with registers := panel.registers }
        strays := panel.strays })
    action

/-- Carries out an action that has nothing to do with the registers. -/
def onConsole {α : Type} (action : Attempt Console α) : Attempt Tampered α :=
  Attempt.on console (fun console tampered => { tampered with console }) action

/-- One step and the cycles it took. A stray that is in its way ends nothing but the step. -/
def step : Attempt Tampered Nat := do
  let { console, strays } ← get
  if let some fault := console.fault then
    throw (.halted fault)
  let (outcome, machine, strays) :=
    (Cpu.Clocked.stepAmong Memory.bus).perform (console.toClocked, strays)
  let stepped := { console with toClocked := machine }
  match outcome with
  | .ok cycles =>
    set ({ console := stepped.conclude cycles, strays } : Tampered)
    return cycles
  | .error error =>
    let console :=
      match error with
      | .undefinedOpcode fault => stepped.keepFault fault
      | _ => stepped
    set ({ console, strays } : Tampered)
    throw error

/-- A tampered console takes steps in spite of the strays. -/
def runner : Runner Tampered where
  console := console
  onConsole := fun change tampered => { tampered with console := change tampered.console }
  step := step.perform

/-- Switches the console off and on. -/
def reset (tampered : Tampered) : Tampered :=
  { console := tampered.console.reset }

/-- Loads what has been saved somewhere, if anything. The strays are gone as soon as the registers
have been taken over. -/
def load (saved : Option Bundle) : Attempt Tampered Unit := do
  let description ← onConsole (Console.takeOver saved)
  modify fun tampered => { tampered with strays := [] }
  onConsole (Console.restoreCounts description)

/-- The registers with the whole numbers that the strays stand for, if they fit into a bundle. -/
def settled (panel : Cpu.Panel) : Except Error Cpu.Registers :=
  (Cpu.Snapshot.widths.zip Cpu.Strays.names).foldlM (fun registers (width, name) => do
      let number ← (panel.strays.content registers name).toInt.mapError .misfit
      let _ ← Cpu.Snapshot.packNumber width number
      return registers.assign name number)
    panel.registers

/-- Saves the console. -/
def save (created : String) (tampered : Tampered) : Except Error Bundle := do
  let registers ← settled tampered.panel
  (tampered.console.onCpu fun cpu => { cpu with registers }).save created

end Tampered

/-- A captured state of a console, and the strays in its registers. -/
structure Capture where
  state : Console.State
  strays : Cpu.Strays := []

/-- The state of a console as it is now. -/
def Tampered.capture (tampered : Tampered) : Capture :=
  { state := tampered.console.capture, strays := tampered.strays }

namespace Capture

/-- The registers under their names. -/
def registerFields (capture : Capture) : List (String × Json) :=
  capture.strays.fields capture.state.cpu.registers

/-- What has changed in the registers, in alphabetical order. -/
def registerChanges (before after : Capture) : List (Cpu.Change Json) :=
  (Cpu.changes Json.same before.registerFields after.registerFields).mergeSort
    fun a b => a.name ≤ b.name

/-- What has changed besides the registers. -/
def otherDifferences (before after : Capture) : Console.Differences :=
  { before.state.diff after.state with
    cpu := Console.compareFields before.state.cpu.otherFields after.state.cpu.otherFields }

/-- Whether two captures are equal in all fields. -/
def same (a b : Capture) : Bool :=
  (a.registerChanges b).isEmpty && (a.otherDifferences b).isEmpty

end Capture

end Handheld
