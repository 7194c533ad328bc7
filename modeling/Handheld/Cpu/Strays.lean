import Handheld.Cpu.Registers
import Handheld.Json.Basic

/-!
Strays: what a host has left in registers besides whole numbers. Truth values count as one and zero
in every calculation. Any other stray stands in the way of whatever looks at its register, and the
register itself counts as zero meanwhile.
-/

namespace Handheld.Cpu

/-- The stray values in a register file, each with the register that it is in. Pairs hold none,
since they are made up of other registers. -/
abbrev Strays := List (RegisterName × Json)

namespace Strays

/-- Takes the strays out of some registers. -/
def without (names : List RegisterName) (strays : Strays) : Strays :=
  strays.filter fun (name, _) => name ∉ names

/-- Whether a register holds a number to calculate with. -/
def isSound (strays : Strays) (name : RegisterName) : Bool :=
  match strays.lookup name with
  | none | some (.bool _) | some (.number (.int _)) => true
  | some _ => false

/-- What is in a register that stands on its own, or in the flags. -/
def content (strays : Strays) (registers : Registers) (name : RegisterName) : Json :=
  (strays.lookup name).getD (.int (registers.read name))

/-- Leaves a value in a register. Only a whole number is no stray there. -/
def leave (name : RegisterName) (value : Json) (strays : Strays) : Strays :=
  match value with
  | .number (.int _) => strays.without [name]
  | value => (name, value) :: strays.without [name]

/-- The registers that can hold strays. -/
def names : List RegisterName :=
  [.pc, .word .sp, .byte .a, .flags, .byte .b, .byte .c, .byte .d, .byte .e, .byte .h, .byte .l]

/-- What is in the registers, under their names. -/
def fields (strays : Strays) (registers : Registers) : List (String × Json) :=
  names.map fun name => (name.text, strays.content registers name)

end Strays

end Handheld.Cpu
