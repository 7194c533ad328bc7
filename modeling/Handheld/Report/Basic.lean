import Handheld.Digest
import Handheld.Json.Basic
import Handheld.Text.Hex

/-!
Reports tell hosts about a machine in JSON. Here are the parts that all reports are made of.
-/

namespace Handheld.Report

/-- A list of whole numbers. -/
def ints (values : List Int) : Json :=
  .array (values.map .int)

/-- Bytes as numbers. -/
def bytes (values : List Byte) : Json :=
  ints (values.map Byte.value)

/-- Bytes in hexadecimal. -/
def hexed (values : List Byte) : Json :=
  .string (Text.hexOfBytes values)

/-- A list of texts. -/
def texts (values : List Text) : Json :=
  .array (values.map .string)

/-- A list of names. -/
def names (values : List String) : Json :=
  texts (values.map Text.ofString)

/-- A latch as zero or one. -/
def bit (on : Bool) : Json :=
  .int on.toNat

/-- A text, if there is one. -/
def text? : Option String → Json
  | some text => .string text
  | none => .null

/-- Named values. -/
def named (fields : List (String × Json)) : Json :=
  .object (fields.map fun (name, value) => (↑name, value))

/-- Named whole numbers. -/
def numbers (fields : List (String × Int)) : Json :=
  .object (fields.map fun (name, value) => (↑name, .int value))

/-- A part of some bytes. Bounds below zero count from the end. -/
def part (data : Bytes) (start stop : Int) : Bytes :=
  data.extract (bound start) (bound stop)
where
  bound (place : Int) : Nat := (if place < 0 then place + data.size else place).toNat

/-- The check over several memories. -/
def digest (parts : List Bytes) : Json :=
  .int (Digest.crc32 parts)

/-- The size of a memory and its check. -/
def sized (data : Bytes) : Json :=
  .object [("len", .int data.size), ("crc", digest [data])]

end Handheld.Report
