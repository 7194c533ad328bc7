import Handheld.Attempt
import Handheld.Cpu.Clocked
import Handheld.Cpu.Reads
import Handheld.Cpu.Strays

/-!
Steps among strays. A step that would calculate with a stray value comes to a halt where it first
looks at it; what it has done until then stays done. A step that looks at none goes as usual.
-/

namespace Handheld.Cpu

/-- The stray that an instruction leaves behind: the conjunction of two truth values is a truth
value. -/
def Strays.conjunction (instruction : Option Instruction) (strays : Strays) : Strays :=
  match instruction with
  | some (.arithmetic .and (.register source)) =>
    match strays.lookup (.byte .a), strays.lookup (.byte source) with
    | some (.bool a), some (.bool value) => [(.byte .a, .bool (a && value))]
    | _, _ => []
  | _ => []

namespace Core

variable {μ : Type}

/-- The strays that are left when a core has made a step to a later one. -/
def straysAfter (core later : Core μ) (strays : Strays) : Strays :=
  strays.conjunction later.cpu.lastInstruction
    ++ strays.without (later.replaced core.cpu.registers.flags)

/-- What a step does before a stray value stops it. An interrupt is prepared for and may have moved
the stack pointer once; an instruction has been fetched, unless not even the program counter is
sound. -/
def stumble (bus : Bus μ) (core : Core μ) (strays : Strays) : Core μ × Strays :=
  let (_, idle) := forget.run core
  if core.servesNext then
    let (_, woken) := wake.run idle
    if strays.isSound (.word .sp) && !core.cpu.haltBug then
      let (_, moved) := (onRegisters fun r => { r with sp := (r.sp - 1) % 65536 }).run woken
      (moved, strays.without [.word .sp])
    else (woken, strays)
  else if strays.isSound .pc then
    let (_, fetched) := (fetch bus).run idle
    (fetched, strays.without [.pc])
  else (idle, strays)

/-- One step of a core whose registers may hold strays. -/
def stepAmong (bus : Bus μ) : Attempt (Core μ × Strays) Nat := do
  let (core, strays) ← get
  if !(core.reads bus).all strays.isSound then
    set (stumble bus core strays)
    throw (.misfit .wrongSort)
  let (outcome, later) := (step bus).run core
  set (later, straysAfter core later strays)
  match outcome with
  | .ok cycles => return cycles
  | .error fault => throw (.undefinedOpcode fault)

end Core

/-- One step of a clocked core whose registers may hold strays. The clock advances by its cost; a
step that fails costs nothing. -/
def Clocked.stepAmong {μ : Type} (bus : Bus μ) : Attempt (Clocked μ × Strays) Nat := do
  let cycles ← Attempt.on (fun (machine, strays) => (machine.core, strays))
    (fun (core, strays) (machine, _) => ({ machine with core }, strays)) (Core.stepAmong bus)
  modify fun (machine, strays) => ({ machine with clock := machine.clock.after cycles }, strays)
  return cycles

end Handheld.Cpu
