import Handheld.Cpu.Snapshot
import Handheld.Error

/-!
The register file as twelve bytes: the program counter and the stack pointer with their low byte
first, then the 8-bit registers.
-/

namespace Handheld.Cpu.Snapshot

/-- How many bytes each register takes, in the order in which a snapshot lists them. -/
def widths : List Nat := [2, 2, 1, 1, 1, 1, 1, 1, 1, 1]

/-- How many bytes all registers take. -/
def packedSize : Nat := widths.foldl (· + ·) 0

/-- The bytes of a number, low byte first. A number outside the range of the width is refused. -/
def packNumber (width : Nat) (value : Int) : Except Error (List Byte) :=
  if 0 ≤ value ∧ value < Bits.single (8 * width) then
    .ok ((List.range width).map fun (place : Nat) => Byte.ofInt (value >>> (8 * place : Nat)))
  else
    .error .registerWidth

/-- The registers of a snapshot as bytes. -/
def pack (snapshot : Snapshot) : Except Error Bytes := do
  let parts ← (widths.zip snapshot.registerFields).mapM fun (width, _, value) =>
    packNumber width value
  return parts.flatten.toArray

/-- The registers that bytes stand for, in a snapshot whose latches are all off. -/
def unpack (bytes : Bytes) : Except Error Snapshot :=
  let byte (place : Nat) : Int := (Cartridge.byteAt bytes place).value
  if bytes.size = packedSize then
    .ok {
      pc := byte 0 + 256 * byte 1
      sp := byte 2 + 256 * byte 3
      a := byte 4
      f := byte 5
      b := byte 6
      c := byte 7
      d := byte 8
      e := byte 9
      h := byte 10
      l := byte 11 }
  else
    .error (.bundle (.registersLength packedSize bytes.size))

end Handheld.Cpu.Snapshot
