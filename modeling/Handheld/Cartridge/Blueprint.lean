import Handheld.Cartridge.Header
import Handheld.Json.Bytes

/-!
Building cartridge images from a few choices. Every bank carries its number in its last two bytes,
the entry point jumps to the program, and the header checksum is right unless another one is asked
for.
-/

namespace Handheld.Cartridge

/-- What an image is built from. -/
structure Blueprint where
  typeCode : Byte := 0
  romCode : Byte := 0
  ramCode : Byte := 0
  /-- The size of the image; usually what the size code declares. -/
  size : Nat := if romCode.toNat ≤ 8 then (2 <<< romCode.toNat) * romBankSize else 0x8000
  title : List Byte := []
  /-- The program; usually one that waits forever. -/
  program : List Byte := [0x18, 0xFE]
  /-- Bytes to be put at offsets of the image after everything else, in order. -/
  patches : List (Nat × List Byte) := []
  checksum : Option Byte := none
  deriving DecidableEq, Repr

/-- Puts bytes into an image from an offset on. What does not fit is dropped. -/
def overwrite (image : Bytes) (offset : Nat) (bytes : List Byte) : Bytes :=
  (bytes.foldl (fun (image, place) byte => (image.setIfInBounds place byte, place + 1))
    (image, offset)).1

namespace Blueprint

/-- The title of an image that is given none. -/
def usualTitle : List Byte :=
  "TESTROM".toList.map fun c => BitVec.ofNat 8 c.toNat

/-- Bytes to be put at an offset. -/
def readPatch (given : Json) : Except Misfit (Nat × List Byte) := do
  match ← given.elements with
  | [offset, bytes] => return ((← offset.toOperand).toNat, ← bytes.toSpelledBytes)
  | _ => throw .unreadable

/-- Reads a blueprint. Whatever is left out is as usual. -/
def ofJson (given : Json) : Except Misfit Blueprint := do
  let code (key : String) : Json := (given.find? key).getD (.int 0)
  let romCode ← (code "rom_code").toOperand
  let usual : Blueprint := { romCode := Byte.ofInt romCode }
  let size ←
    match given.find? "size" with
    | some size => size.toOperand
    | none => pure (if romCode < 0 then romCode else usual.size)
  if size < 0 then throw .unreadable
  let spelled (key : String) (default : List Byte) : Except Misfit (List Byte) :=
    (given.find? key).elim (.ok default) Json.toSpelledBytes
  return {
    typeCode := ← (code "type").toByte
    romCode := ← (code "rom_code").toByte
    ramCode := ← (code "ram_code").toByte
    size := size.toNat
    title := ← spelled "title" usualTitle
    program := ← spelled "program" usual.program
    patches := ← (← ((given.find? "patches").getD (.array [])).elements).mapM readPatch
    checksum := ← (given.find? "checksum").mapM Json.toByte }

/-- The numbers of the banks at their ends. -/
def bankMarks (blueprint : Blueprint) : List (Nat × List Byte) :=
  (List.range ((blueprint.size + romBankSize - 1) / romBankSize)).map fun bank =>
    ((bank + 1) * romBankSize - 2, [BitVec.ofNat 8 (bank / 256), BitVec.ofNat 8 bank])

/-- Everything that is put into an image, in order. -/
def parts (blueprint : Blueprint) : List (Nat × List Byte) :=
  blueprint.bankMarks
    ++ [(0x100, [0x00, 0xC3, 0x50, 0x01]),
      (0x134, blueprint.title),
      (0x147, [blueprint.typeCode, blueprint.romCode, blueprint.ramCode]),
      (0x150, blueprint.program)]
    ++ blueprint.patches

/-- The image. One too small for a header gets no checksum. -/
def image (blueprint : Blueprint) : Bytes :=
  let filled := blueprint.parts.foldl (fun image (offset, bytes) => overwrite image offset bytes)
    (Array.replicate blueprint.size 0)
  if blueprint.size < 0x150 then filled
  else overwrite filled 0x14D [blueprint.checksum.getD (checksumOf filled)]

end Blueprint

end Handheld.Cartridge
