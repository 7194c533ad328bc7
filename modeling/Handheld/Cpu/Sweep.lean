import Handheld.Cpu.Form

/-!
Sweeps: one trial step for every value that a byte can have, with that value in a register or in a
cell of memory.
-/

namespace Handheld.Cpu

/-- Where a sweep puts its values. -/
inductive Varied
  /-- A field of the sheet that every step starts from. -/
  | field (name : Text)
  /-- A cell, by the key that the host lists it under. -/
  | cell (key : Json)

/-- What all steps of a sweep start from. -/
structure Sweep where
  varied : Varied
  /-- The fields of the sheet, of which the program counter and the stack pointer may be left
  out. -/
  fields : List (Text × Json) := []
  /-- The bytes at the program counter. -/
  code : List Byte := []

namespace Sweep

/-- Where the code of a sweep lies. -/
abbrev origin : Int := 0xC000

/-- The form for the step with a given value. -/
def form (sweep : Sweep) (value : Int) : Except Misfit Form := do
  let usual : List (Text × Json) := [("pc", .int origin), ("sp", .int 0xDFF0)]
  let code : Cells := sweep.code.zipIdx.map fun (byte, place) =>
    (.int (origin + place), .int byte.value)
  let (fields, cells) ←
    match sweep.varied with
    | .field name => pure ([(name, .int value)], code)
    | .cell key => pure ([], Json.insertPair code (← key.toKey, .int value))
  let sheet ← Sheet.ofJson (.object (Json.dedupe (usual ++ sweep.fields ++ fields)))
  return { sheet, cells }

/-- The accumulator, the flags and the varied place after the step with a given value. Only numbers
can be told. -/
def step (sweep : Sweep) (value : Int) : Except Error (List Int) := do
  let answer ← (← (sweep.form value).mapError .misfit).run
  let varied :=
    match sweep.varied with
    | .cell key => Json.findPair? key answer.cells
    | .field name => answer.sheet.find? name
  [answer.sheet.a, answer.sheet.f, varied.getD .null].mapM fun value =>
    value.toOperand.mapError .misfit

/-- The results for all values, if every step succeeds. -/
def run (sweep : Sweep) : Except Error (List (List Int)) :=
  (List.range 256).mapM fun (value : Nat) => sweep.step value

end Sweep

end Handheld.Cpu
