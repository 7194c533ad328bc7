import Handheld.Clock
import Handheld.Cpu.Execution

/-!
A processor whose steps drive a clock.
-/

namespace Handheld.Cpu

/-- A core together with the clock that its steps advance. -/
structure Clocked (μ : Type) where
  core : Core μ
  clock : Clock := {}

/-- One step. The clock advances by its cost; a step that fails costs nothing. -/
def Clocked.step {μ : Type} (bus : Bus μ) (machine : Clocked μ)
    : Except Fault Nat × Clocked μ :=
  let (outcome, core) := (Core.step bus).run machine.core
  match outcome with
  | .ok cycles => (.ok cycles, { core, clock := machine.clock.after cycles })
  | .error fault => (.error fault, { machine with core })

end Handheld.Cpu
