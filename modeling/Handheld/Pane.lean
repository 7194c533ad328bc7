import Handheld.Json.Printer
import Handheld.Window

/-!
Panes: windows as a host lays them out. Name, start and size may be given in many ways. A start that
is no whole number leaves the bytes out of reach, but it can still be compared with.
-/

namespace Handheld

/-- A window, with its start and size as they were given. -/
structure Pane where
  size : Nat
  window : Window size
  start : Json
  extent : Json

namespace Pane

/-- A pane from a name, a start, a size and perhaps what every byte is reset to. -/
def ofJson (given : Json) : Except Misfit Pane := do
  let (name, start, extent, fill) ←
    match ← given.elements with
    | [name, start, extent] => pure (name, start, extent, Json.int 0)
    | [name, start, extent, fill] => pure (name, start, extent, fill)
    | _ => throw .wrongSort
  let fill ← fill.toOperand
  let length ← extent.toLength
  return {
    size := length.toNat
    window := {
      name := name.plainText
      start := start.toOperand.toOption.getD 0
      declared := length
      fill := Byte.ofInt fill }
    start, extent }

/-- Replaces the window by one of the same size. -/
def withWindow (pane : Pane) (window : Window pane.size) : Pane :=
  { pane with window }

/-- An address, if the bytes are in reach. -/
def address (given : Json) (pane : Pane) : Except Error Int := do
  let address ← given.toOperand.mapError .misfit
  let _ ← pane.start.toOperand.mapError .misfit
  return address

/-- Reads the byte at an address. -/
def read (pane : Pane) (given : Json) : Except Error Byte := do
  pane.window.read (← pane.address given)

/-- Writes the byte at an address. The value is looked at first. -/
def write (given value : Json) (pane : Pane) : Except Error Pane := do
  let value ← value.toOperand.mapError .misfit
  return pane.withWindow (← pane.window.write (← pane.address given) value)

/-- The last address. -/
def last (pane : Pane) : Except Misfit Number := do
  return ((← pane.start.toNumber).add (.int pane.window.declared)).add (.int (-1))

/-- Whether an address lies between the ends. -/
def contains (pane : Pane) (address : Json) : Except Misfit Bool := do
  let number ← address.toNumber
  return (← pane.start.toNumber).atMost number && number.atMost (← pane.last)

/-- Fills the bytes anew. -/
def reset (pane : Pane) : Pane :=
  pane.withWindow pane.window.reset

/-- Replaces all bytes. A wrong number of them is told beside the size as it was given. -/
def restore (bytes : Bytes) (pane : Pane) : Except Error Pane :=
  match pane.window.restore bytes with
  | .ok window => .ok (pane.withWindow window)
  | .error (.windowSize name _ got) => .error (.windowSize name pane.extent.plainText got)
  | .error error => .error error

end Pane

end Handheld
