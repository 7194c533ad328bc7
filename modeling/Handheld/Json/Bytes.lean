import Handheld.Json.Basic
import Handheld.Text.Hex

/-!
Bytes as documents and hosts write them down: spelled in hexadecimal, as a number of equal bytes, or
as the multiples of a number.
-/

namespace Handheld.Json

/-- The bytes that a value spells in hexadecimal. -/
def toSpelledBytes : Json → Except Misfit (List Byte)
  | .string text =>
    match Text.bytesOfHex? text with
    | some bytes => .ok bytes
    | none => .error .unreadable
  | _ => .error .wrongSort

/-- The byte that a value is. -/
def toByte (value : Json) : Except Misfit Byte := do
  let number ← value.toOperand
  if number < 0 ∨ 256 ≤ number then throw .unreadable
  return Byte.ofInt number

/-- A member that has to be there. -/
def needed (value : Json) (key : Text) : Except Misfit Json :=
  match value.find? key with
  | some found => .ok found
  | none => .error .unknownName

/-- The bytes that a value gives in one of the three ways. Where there are no bytes, nobody looks
at the number that they would be multiples of. -/
def toBytes (value : Json) : Except Misfit (List Byte) := do
  let .object _ := value | value.toSpelledBytes
  match value.find? "fill" with
  | some fill =>
    let byte ← fill.toByte
    let count ← (← value.needed "len").toOperand
    return List.replicate count.toNat byte
  | none =>
    let ramp ← value.needed "ramp"
    let count ← (← value.needed "len").toOperand
    if count ≤ 0 then return []
    let step ← ramp.toOperand
    return (List.range count.toNat).map fun (place : Nat) => Byte.ofInt (place * step)

end Handheld.Json
