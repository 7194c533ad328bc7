import Handheld.Attempt
import Handheld.Cpu.Strays

/-!
The panel: the register file in the hands of a host, who can leave any value in the registers that
are not made up of others. Flags and pairs take nothing but numbers, but the cells behind the flags
take any value, and then even the bits that are wired to zero hold something.
-/

namespace Handheld.Cpu

/-- The register that a value names. -/
def RegisterName.ofJson : Json → Except Misfit RegisterName
  | .string name =>
    match ofText? name with
    | some register => .ok register
    | none => .error .notObject
  | _ => .error .wrongSort

/-- The whole number that a value in a register counts as. -/
def weigh (value : Json) : Int :=
  value.toOperand.toOption.getD 0

/-- A register file, and the values left in it that are no whole numbers. -/
structure Panel where
  registers : Registers := .powerOn
  strays : Strays := []

namespace Panel

/-- The number in the flags or in the cells behind them, if it is one. -/
def flagCells (panel : Panel) : Except Misfit Int :=
  (panel.strays.content panel.registers .flags).toOperand

/-- The value of a register. A pair has one only if both of its parts can be calculated with. -/
def read (name : RegisterName) (panel : Panel) : Except Misfit Json :=
  match name with
  | .word .sp => .ok (panel.strays.content panel.registers name)
  | .word .af => do
    let cells ← panel.flagCells
    if !panel.strays.isSound (.byte .a) then throw .wrongSort
    let af := Bits.join panel.registers.a cells
    return .int (if panel.registers.flagwise then Bits.raise af else af)
  | .word register =>
    if register.holders.all panel.strays.isSound then
      .ok (.int (panel.registers.get16 register))
    else .error .wrongSort
  | name => .ok (panel.strays.content panel.registers name)

/-- Leaves any value in a register that stands on its own. -/
def leave (name : RegisterName) (value : Json) (panel : Panel) : Panel where
  registers := panel.registers.assign name (weigh value)
  strays := panel.strays.leave name value

/-- Leaves any value in the cells behind the flags. -/
def leaveCells (value : Json) (panel : Panel) : Panel where
  registers := panel.registers.loadFlags (weigh value)
  strays := (.flags, value) :: panel.strays.without [.flags]

/-- Puts a number into the flags or into a pair. -/
def load (name : RegisterName) (holders : List RegisterName) (value : Json)
    : Attempt Panel Unit := do
  let number ← Attempt.expect value.toOperand
  modify fun panel =>
    { registers := panel.registers.assign name number, strays := panel.strays.without holders }

/-- Assigns a value to a register. -/
def assign (name : RegisterName) (value : Json) : Attempt Panel Unit :=
  match name with
  | .flags => load name [.flags] value
  | .word .sp => modify (leave name value)
  | .word register => load name register.holders value
  | name => modify (leave name value)

/-- Assigns a value to whatever is named: a register, or the cells behind the flags. -/
def assignNamed (name value : Json) : Attempt Panel Unit :=
  match name with
  | .string "_f" => modify (leaveCells value)
  | name => do assign (← Attempt.expect (RegisterName.ofJson name)) value

/-- The value of whatever is named. -/
def readNamed (name : Json) (panel : Panel) : Except Misfit Json :=
  match name with
  | .string "_f" => panel.read .flags
  | name => do panel.read (← RegisterName.ofJson name)

/-- The flags that are set. -/
def flags (panel : Panel) : Except Misfit Flags := do
  return Flags.ofInt (← panel.flagCells)

/-- Sets or clears a flag. Clearing one also clears the bits wired to zero. -/
def setFlag (flag : Flag) (on : Bool) : Attempt Panel Unit := do
  let panel ← get
  let cells ← Attempt.expect panel.flagCells
  let registers := panel.registers.setFlags (panel.registers.flags.set flag on)
  let kept := Bits.raise (Bits.lor cells ((Flags.set {} flag true).toInt))
  if on && kept ≠ registers.f then
    set { panel with registers, strays := panel.strays.leave .flags (.int kept) }
  else
    set { panel with registers, strays := panel.strays.without [.flags] }

/-- Sets or clears several flags at once; a flag without a new state keeps its old one. -/
def setFlags (z n h c : Option Bool) : Attempt Panel Unit := do
  let panel ← get
  let _ ← Attempt.expect panel.flagCells
  let tidy := { panel with strays := panel.strays.without [.flags] }
  if [z, n, h, c].all Option.isNone then set tidy
  else
    let flags := panel.registers.flags.update z n h c
    set { tidy with registers := panel.registers.setFlags flags }

/-- Four hexadecimal digits for a value. -/
def expectHex : Json → Except Misfit String
  | .number (.float _) | .string _ => .error .unreadable
  | value => do return Text.hex 4 (← value.toOperand)

/-- The pairs and pointers in hexadecimal. -/
def describe (panel : Panel) : Except Misfit String := do
  let parts ← [("AF", RegisterName.word .af), ("BC", .word .bc), ("DE", .word .de),
    ("HL", .word .hl), ("SP", .word .sp), ("PC", .pc)].mapM fun (name, register) => do
      return name ++ "=" ++ (← expectHex (← panel.read register))
  return "Registers(" ++ " ".intercalate parts ++ ")"

end Panel

end Handheld.Cpu
