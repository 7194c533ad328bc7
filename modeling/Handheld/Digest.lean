import Handheld.Cartridge.Header

/-!
The cyclic redundancy check of 32 bits, by which a host can tell memories apart without looking at
their bytes.
-/

namespace Handheld.Digest

/-- One bit of the division by the reversed generator polynomial. -/
def shift (c : UInt32) : UInt32 :=
  if c &&& 1 = 1 then (0xEDB88320 : UInt32) ^^^ (c >>> 1) else c >>> 1

/-- The remainders of all bytes. -/
def table : Array UInt32 :=
  (Array.range 256).map fun n => (List.range 8).foldl (fun c _ => shift c) (UInt32.ofNat n)

/-- Takes in one byte. -/
def step (c : UInt32) (byte : Byte) : UInt32 :=
  table[((c ^^^ UInt32.ofNat byte.toNat) &&& 0xFF).toNat]?.getD 0 ^^^ (c >>> 8)

/-- The check of several byte strings in a row. -/
def crc32 (parts : List Bytes) : Nat :=
  let start : UInt32 := 0xFFFFFFFF
  (parts.foldl (fun c part => part.foldl step c) start ^^^ 0xFFFFFFFF).toNat

end Handheld.Digest
