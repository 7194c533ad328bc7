import Handheld.Memory.Basic
import Handheld.Proofs.Cpu.Course
import Handheld.Proofs.Cpu.Range
import Handheld.Proofs.Reference.Operation

/-! What a processor finds at the program counter in the machine's memory.
A read is counted and logged there and changes no cell, so what will be fetched can be told before
the fetch begins.
-/

namespace Handheld.Cpu.Core

variable {core fetched : Core Memory}

/-- The byte that a read would find at an address. -/
def cell (core : Core Memory) (address : Int) : Byte :=
  core.memory.peek core.interrupts address

/-- The byte at the program counter. -/
def opcode (core : Core Memory) : Byte :=
  core.cell core.cpu.registers.pc

/-- The instruction that starts at the program counter, on either page of the chart. -/
def instruction? (core : Core Memory) : Option Instruction :=
  (Chart.decode? core.opcode).map fun first =>
    if first = .extend then Chart.decodeExtended (core.cell core.behind) else first

/-- What the last step did makes no difference to what comes next. -/
theorem instruction?_forgotten (core : Core Memory)
    : core.forgotten.instruction? = core.instruction? := by
  have opcode : core.forgotten.opcode = core.opcode := rfl
  have second : core.forgotten.cell core.forgotten.behind = core.cell core.behind := rfl
  rw [instruction?, instruction?, opcode, second]

/-- The opcode has been read, and that is all. -/
def glanced (core : Core Memory) : Core Memory :=
  { core with
    memory :=
      { core.memory with
        readCount := core.memory.readCount + 1
        log := core.memory.log.noteRead (Address.ofInt core.cpu.registers.pc) core.opcode } }

theorem opened_bus (core : Core Memory)
    : core.opened Memory.bus = (core.opcode.value, core.glanced) :=
  rfl

/-- The chart has no entry for the undefined opcodes, and for no others. -/
theorem decode?_eq_none_iff {opcode : Byte}
    : Chart.decode? opcode = none ↔ opcode ∈ Reference.undefinedOpcodes := by
  have defined := Reference.decode?_isSome_iff opcode
  rw [Reference.chart_decode?]
  split
  case isTrue extended =>
      exact iff_of_false nofun (defined.mp (.inl extended))
  case isFalse base =>
      rw [Option.map_eq_none_iff, ← Option.not_isSome_iff_eq_none]
      grind

/-- An undefined opcode is read and nothing else happens. -/
theorem run_fetch_bus_undefined (undefined : core.opcode ∈ Reference.undefinedOpcodes)
    : (fetch Memory.bus).run core
      = (.error { opcode := core.opcode, pc := core.cpu.registers.pc }, core.glanced) := by
  have opcode : Byte.ofInt (core.opened Memory.bus).1 = core.opcode :=
    Byte.ofInt_value core.opcode
  rw [run_fetch_undefined (opcode.symm ▸ decode?_eq_none_iff.mpr undefined), opcode, opened_bus]

/-- A second opcode byte decides on the extended page. Operands decide nothing. -/
theorem run_fetchRest_bus (first : Instruction) (address : Int) (core : Core Memory)
    : ((fetchRest Memory.bus first address).run core).1.1
      = if first = .extend then Chart.decodeExtended (core.cell address) else first := by
  rw [fetchRest]
  split
  · have second : Byte.ofInt ((core.cell address).value % 256) = core.cell address := by
      have bound := (core.cell address).isByte_value
      rw [Int.emod_eq_of_lt bound.1 bound.2, Byte.ofInt_value]
    have byte : (readByte Memory.bus address).run core
        = ((core.cell address).value % 256, ((readByte Memory.bus address).run core).2) := rfl
    rw [run_bind_of byte, second]
    generalize Chart.decodeExtended (core.cell address) = instruction
    rfl
  split
  · rfl
  split <;> rfl

/-- What is fetched is the entry at the program counter. -/
theorem instruction?_of_fetch {instruction : Instruction} {immediate : Int}
    (found : (fetch Memory.bus).run core = (.ok (instruction, immediate), fetched))
    : core.instruction? = some instruction := by
  have opcode : Byte.ofInt (core.opened Memory.bus).1 = core.opcode :=
    Byte.ofInt_value core.opcode
  cases defined : Chart.decode? core.opcode with
  | none =>
      rw [run_fetch_bus_undefined (decode?_eq_none_iff.mp defined)] at found
      cases found
  | some first =>
      rw [run_fetch_defined (opcode.symm ▸ defined)] at found
      obtain ⟨rest, _⟩ := Prod.mk.inj found
      have named := run_fetchRest_bus first core.behind (core.opened Memory.bus).2.roused
      rw [Except.ok.inj rest] at named
      rw [instruction?, defined, Option.map_some]
      exact congrArg some named.symm

/-- A fetch on the machine's memory fails just at an undefined opcode. -/
theorem fetch_bus_error {fault : Fault}
    (found : (fetch Memory.bus).run core = (.error fault, fetched))
    : core.opcode ∈ Reference.undefinedOpcodes
        ∧ fault = { opcode := core.opcode, pc := core.cpu.registers.pc }
        ∧ fetched = core.glanced := by
  have opcode : Byte.ofInt (core.opened Memory.bus).1 = core.opcode :=
    Byte.ofInt_value core.opcode
  cases defined : Chart.decode? core.opcode with
  | none =>
      have undefined := decode?_eq_none_iff.mp defined
      rw [run_fetch_bus_undefined undefined] at found
      obtain ⟨same, rfl⟩ := Prod.mk.inj found
      exact ⟨undefined, (Except.error.inj same).symm, rfl⟩
  | some first =>
      rw [run_fetch_defined (opcode.symm ▸ defined)] at found
      cases found

end Handheld.Cpu.Core
