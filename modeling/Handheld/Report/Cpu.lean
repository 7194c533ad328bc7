import Handheld.Cpu.Bench
import Handheld.Cpu.Sweep
import Handheld.Report.Basic

/-!
Reports on instructions, registers and the processor.
-/

namespace Handheld.Report

/-- All that a listing tells about an instruction with a given opcode. -/
def instruction (opcode : Byte) (instruction : Cpu.Instruction) : Json :=
  .object [
    ("opcode", .int opcode.value),
    ("mnemonic", .string instruction.mnemonic),
    ("length", .int instruction.length),
    ("cycles", .int instruction.cycles),
    ("operation", .string instruction.operation),
    ("operands", .array (instruction.operands.map fun
      | .name text => .string text
      | .number value => .int value)),
    ("condition", text? (instruction.condition?.map Cpu.Condition.text)),
    ("cycles_taken",
      match instruction.takenCycles? with
      | some cycles => .int cycles
      | none => .null),
    ("prefixed", .bool instruction.isExtended),
    ("conditional", .bool instruction.condition?.isSome)]

/-- The registers under their names. -/
def registerFields (r : Cpu.Registers) : List (String × Int) :=
  [("pc", r.pc), ("sp", r.sp), ("a", r.a), ("f", r.f), ("b", r.b), ("c", r.c), ("d", r.d),
    ("e", r.e), ("h", r.h), ("l", r.l)]

/-- The register file. -/
def registers (r : Cpu.Registers) : Json :=
  numbers (registerFields r)

/-- The flags as zero or one. -/
def flags (flags : Cpu.Flags) : Json :=
  .object (Cpu.Flag.all.map fun flag => (flag.name, bit (flags.get flag)))

/-- Changed registers and latches, each with its value before and after. -/
def changes (changes : List (Cpu.Change Json)) : Json :=
  named (changes.map fun change => (change.name, .array [change.before, change.after]))

/-- What has come of a form. -/
def trial (answer : Cpu.Form.Answer) : Except Misfit Json := do
  let trial := answer.trial
  return .object [
    ("registers", ← answer.sheet.toJson),
    ("changed", changes answer.changed),
    ("writes", .array (answer.writes.map fun note =>
      .array [.int note.address, .int note.value, note.previous])),
    ("image", .array ((← Json.sortPairs answer.cells).map fun (key, value) =>
      .array [key, value])),
    ("cycles", .int trial.cycles),
    ("name", text? trial.name),
    ("length", .int trial.length),
    ("serviced", text? (trial.serviced.map Source.name)),
    ("if", .int trial.requests)]

/-- Two sheets and what they differ in. -/
def comparison (a b : Cpu.Sheet) : Except Misfit Json := do
  return .object [
    ("a", ← a.toJson), ("b", ← b.toJson), ("diff", changes (← a.diff b)),
    ("equal", .bool (a.same b))]

/-- The results of a sweep as groups of two digits for each number. -/
def sweep (results : List (List Int)) : Json :=
  let group (numbers : List Int) : String :=
    String.ofList (numbers.flatMap (Text.lowerHex 2))
  .string (" ".intercalate (results.map group))

/-- The latches of a core, the master switch in front. -/
def latches {μ : Type} (core : Cpu.Core μ) : List Json :=
  [core.interrupts.master, core.cpu.eiPending, core.cpu.halted, core.cpu.stopped,
    core.cpu.haltBug].map bit

/-- The program counter, the stack pointer and the pairs, if all of them can be told. -/
def pointers (panel : Cpu.Panel) : Except Misfit (List Json) :=
  [Cpu.RegisterName.pc, .word .sp, .word .af, .word .bc, .word .de, .word .hl].mapM panel.read

/-- What a row begins with: a count of cycles, what was executed or served, and the pointers. -/
def rowStart {μ : Type} (cycles : Int) (core : Cpu.Core μ) (panel : Cpu.Panel)
    : Except Misfit (List Json) := do
  return [.int cycles, text? (core.cpu.lastInstruction.map Cpu.Instruction.mnemonic),
    text? (core.cpu.lastInterrupt.map Source.name)] ++ (← pointers panel)

/-- A row that tells about a processor on the bench. Its latches are told as the whole numbers that
their values stand for. -/
def benchRow (cycles : Int) (bench : Cpu.Bench) : Except Misfit (List Json) := do
  if bench.broken then throw .notObject
  let start ← rowStart cycles bench.core bench.panel
  let latches ← bench.latches.fields.mapM fun (_, value) => Json.int <$> value.toInt
  return start ++ bit bench.core.interrupts.master :: latches

/-- The state of a processor on the bench, with a count of cycles. -/
def bench (cycles : Int) (bench : Cpu.Bench) : Except Misfit Json := do
  return .object [
    ("cpu", .array (← benchRow cycles bench)),
    ("n", bench.count),
    ("ie", .int bench.core.interrupts.readEnable),
    ("if", .int bench.core.interrupts.readRequests),
    ("mem", digest [bench.ram.toArray])]

end Handheld.Report
