import Handheld.Cpu.Hindered
import Handheld.Cpu.Sheet
import Handheld.Cpu.Trial
import Handheld.Json.Members

/-!
Forms: a trial step as a host asks for it. Registers and cells of memory may be filled in with
anything. What a step looks at has to be a number, and the rest comes back as it was.
-/

namespace Handheld.Cpu

/-- Cells of memory as a host lists them: any keys, of which some are addresses, with any values. -/
abbrev Cells := List (Json × Json)

namespace Cells

/-- What is filled in for an address, if anything. -/
def find? (cells : Cells) (address : Int) : Option Json :=
  Json.findPair? (.int address) cells

/-- Whether a cell is filled in with something that is no number. -/
def isStray (cells : Cells) (address : Int) : Bool :=
  (cells.find? address).any fun value => !value.toOperand.isOk

/-- The address that a key is, if it is a whole number in any spelling. -/
def address? (key : Json) : Option Int :=
  match key.toNumber with
  | .ok number =>
    if number.isFinite && number.same (.int number.floor) then some number.floor else none
  | .error _ => none

/-- The image that cells describe. A stray value counts as zero. -/
def image (default : Int) (cells : Cells) : Image :=
  .ofList default (cells.filterMap fun (key, value) =>
    (address? key).map fun address => (address, weigh value))

/-- The cells after a write. A key stays as it was written down. -/
def write (cells : Cells) (write : MemoryWrite) : Cells :=
  Json.insertPair cells (.int write.address, .int write.value)

end Cells

/-- What a host fills in. -/
structure Form where
  sheet : Sheet
  cells : Cells := []
  default : Int := 0
  enable : Int := 0
  requests : Int := 0

/-- A write as a host is told about it. -/
structure Form.Note where
  address : Int
  value : Int
  /-- What was filled in for the cell. -/
  previous : Json

/-- What comes of a form. -/
structure Form.Answer where
  trial : Trial
  sheet : Sheet
  /-- What differs between the sheet that was filled in and this one. -/
  changed : List (Change Json)
  writes : List Form.Note
  cells : Cells

namespace Form

/-- Writes with what each of them has found. -/
def notes (default : Int) : Cells → List MemoryWrite → List Note
  | _, [] => []
  | cells, write :: rest =>
    { address := write.address
      value := write.value
      previous := (cells.find? write.address).getD (.int (default % 256)) }
      :: notes default (cells.write write) rest

/-- Performs the step that a form asks for and compares the sheets before and after it. -/
def run (form : Form) : Except Error Answer := do
  let _ ← form.sheet.f.toOperand.mapError .misfit
  let start := form.sheet.snapshot
  let core := start.core (form.cells.image form.default) form.enable form.requests
  let (outcome, core, strays) := (Core.stepAmong Sparse.bus).perform (core, form.sheet.strays)
  if core.memory.reads.any form.cells.isStray then
    throw (.misfit .wrongSort)
  let trial := Trial.ofCore start (← outcome) core
  let sheet := .ofSnapshot trial.registers strays
    (form.sheet.latches.afterStep trial.idle false trial.registers)
  let changed ← (form.sheet.diff sheet).mapError .misfit
  return {
    trial, sheet, changed
    writes := notes form.default form.cells trial.writes
    cells := trial.writes.foldl Cells.write form.cells }

end Form

end Handheld.Cpu
