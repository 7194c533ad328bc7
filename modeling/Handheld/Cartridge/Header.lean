import Handheld.Text.Blank
import Handheld.Text.Hex

/-!
The header of a cartridge image: its title, the bank switching circuit on the board and the sizes
of its memories.
-/

namespace Handheld

/-- The supported bank switching circuits. -/
inductive Mapper
  | romOnly
  | mbc1
  | mbc2
  | mbc3
  | mbc5
  deriving DecidableEq, Repr

/-- The usual name of a circuit. -/
def Mapper.name : Mapper → String
  | .romOnly => "ROM ONLY"
  | .mbc1 => "MBC1"
  | .mbc2 => "MBC2"
  | .mbc3 => "MBC3"
  | .mbc5 => "MBC5"

/-- The bytes of a cartridge image or of a memory on the board. -/
abbrev Bytes := Array Byte

namespace Cartridge

/-- Size of one bank of program memory. -/
abbrev romBankSize : Nat := 0x4000

/-- Size of one bank of external memory. -/
abbrev ramBankSize : Nat := 0x2000

/-- Why an image is no usable cartridge. -/
inductive Refusal
  /-- There is not even room for a header. -/
  | tooSmall (size : Nat)
  | unsupportedType (code : Byte)
  | unknownRomCode (code : Byte)
  | unknownRamCode (code : Byte)
  /-- The header promises another number of banks than the image has. -/
  | sizeMismatch (size banks : Nat)
  deriving DecidableEq, Repr

/-- The report of a refusal. -/
def Refusal.message : Refusal → String
  | .tooSmall size => "ROM image of " ++ toString size ++ " bytes is too small to hold a header"
  | .unsupportedType code => "Unsupported cartridge type 0x" ++ Text.hex 2 code.value
  | .unknownRomCode code => "Unknown ROM size code 0x" ++ Text.hex 2 code.value
  | .unknownRamCode code => "Unknown RAM size code 0x" ++ Text.hex 2 code.value
  | .sizeMismatch size banks =>
    "ROM image is " ++ toString size ++ " bytes but header declares " ++ toString banks
      ++ " banks (" ++ toString (banks * romBankSize) ++ " bytes)"

/-- What stands on a board: the circuit, whether there is external memory, and whether a battery
keeps it. -/
structure Board where
  mapper : Mapper
  hasRam : Bool
  battery : Bool
  deriving DecidableEq, Repr

/-- The board of a cartridge type. Boards with a clock are taken without it. -/
def board? (code : Byte) : Option Board :=
  match code.toNat with
  | 0x00 => some ⟨.romOnly, false, false⟩
  | 0x01 => some ⟨.mbc1, false, false⟩
  | 0x02 => some ⟨.mbc1, true, false⟩
  | 0x03 => some ⟨.mbc1, true, true⟩
  | 0x05 => some ⟨.mbc2, true, false⟩
  | 0x06 => some ⟨.mbc2, true, true⟩
  | 0x08 => some ⟨.romOnly, true, false⟩
  | 0x09 => some ⟨.romOnly, true, true⟩
  | 0x0F => some ⟨.mbc3, false, true⟩
  | 0x10 => some ⟨.mbc3, true, true⟩
  | 0x11 => some ⟨.mbc3, false, false⟩
  | 0x12 => some ⟨.mbc3, true, false⟩
  | 0x13 => some ⟨.mbc3, true, true⟩
  | 0x19 => some ⟨.mbc5, false, false⟩
  | 0x1A => some ⟨.mbc5, true, false⟩
  | 0x1B => some ⟨.mbc5, true, true⟩
  | 0x1C => some ⟨.mbc5, false, false⟩
  | 0x1D => some ⟨.mbc5, true, false⟩
  | 0x1E => some ⟨.mbc5, true, true⟩
  | _ => none

/-- The number of program banks that a size code declares. -/
def romBanks? (code : Byte) : Option Nat :=
  if code.toNat ≤ 8 then some (2 <<< code.toNat) else none

/-- The bytes of external memory that a size code declares. -/
def ramSize? (code : Byte) : Option Nat :=
  match code.toNat with
  | 0 => some 0
  | 1 => some 0x800
  | 2 => some 0x2000
  | 3 => some 0x8000
  | 4 => some 0x20000
  | 5 => some 0x10000
  | _ => none

/-- The fields of a header. -/
structure Header where
  title : String
  typeCode : Byte
  mapper : Mapper
  romBanks : Nat
  ramSize : Nat
  battery : Bool
  headerChecksum : Byte
  globalChecksum : Word
  /-- Whether the stored header checksum is the one that the header bytes have. -/
  checksumValid : Bool
  deriving DecidableEq, Repr

/-- A byte of an image; beyond its end there are zeros. -/
def byteAt (image : Bytes) (offset : Nat) : Byte :=
  image[offset]?.getD 0

/-- The checksum over the header bytes from the title up to the version number. -/
def checksumOf (image : Bytes) : Byte :=
  (image.extract 0x134 0x14D).foldl (fun sum byte => sum - byte - 1) 0

/-- The title: ASCII up to the first zero, without white space at its ends. A byte beyond ASCII
becomes a replacement character. -/
def readTitle (image : Bytes) : String :=
  let bytes := (image.extract 0x134 0x144).toList.takeWhile (· ≠ 0)
  let decode (byte : Byte) : Char :=
    if byte.toNat < 0x80 then Char.ofNat byte.toNat else '\ufffd'
  String.ofList (Text.strip Text.isBlank (bytes.map decode))

namespace Header

/-- The bytes of program memory that the header promises. -/
def romSize (header : Header) : Nat :=
  header.romBanks * romBankSize

/-- The number of banks of external memory. A chip smaller than a bank counts as one. -/
def ramBanks (header : Header) : Nat :=
  if header.ramSize = 0 then 0 else max 1 (header.ramSize / ramBankSize)

/-- Reads the header of an image. The length, the type and the two size codes are looked at in
this order. -/
def parse (image : Bytes) : Except Refusal Header := do
  if image.size < 0x150 then
    throw (.tooSmall image.size)
  let typeCode := byteAt image 0x147
  let some board := board? typeCode | throw (.unsupportedType typeCode)
  let romCode := byteAt image 0x148
  let some romBanks := romBanks? romCode | throw (.unknownRomCode romCode)
  let ramCode := byteAt image 0x149
  let some declared := ramSize? ramCode | throw (.unknownRamCode ramCode)
  let ramSize :=
    if board.mapper = .mbc2 then 0x200 else if board.hasRam then declared else 0
  return {
    title := readTitle image
    typeCode
    mapper := board.mapper
    romBanks
    ramSize
    battery := board.battery
    headerChecksum := byteAt image 0x14D
    globalChecksum := (byteAt image 0x14E) ++ (byteAt image 0x14F)
    checksumValid := checksumOf image = byteAt image 0x14D }

end Header

end Cartridge

end Handheld
