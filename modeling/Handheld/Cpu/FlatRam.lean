import Handheld.Cpu.Basic

/-!
A plain memory of 64 KiB without any device, and a wrapper that records what is written.
-/

namespace Handheld.Cpu

/-- One byte for each of the 65536 addresses. -/
abbrev FlatRam := Vector Byte 65536

namespace FlatRam

/-- A memory of zeros. -/
def zeros : FlatRam := Vector.replicate 65536 0

/-- The byte at an address. -/
def get (ram : FlatRam) (address : Int) : Byte :=
  Vector.get ram (Address.ofInt address)

/-- Replaces the byte at an address. -/
def set (ram : FlatRam) (address : Int) (value : Byte) : FlatRam :=
  Vector.set ram (Address.ofInt address) value (Address.ofInt address).isLt

/-- Stores bytes at consecutive addresses, wrapping at the end of memory. -/
def setAll (ram : FlatRam) (address : Int) (bytes : List Byte) : FlatRam :=
  (bytes.foldl (fun (ram, next) byte => (set ram next byte, next + 1)) (ram, address)).1

/-- The bytes at consecutive addresses, wrapping at the end of memory. -/
def slice (ram : FlatRam) (address : Int) (count : Nat) : List Byte :=
  (List.range count).map fun (offset : Nat) => get ram (address + offset)

/-- Flat memory as a bus: no access touches the interrupt controller. -/
def bus : Bus FlatRam where
  read address interrupts ram := ((get ram address).value, interrupts, ram)
  write address value interrupts ram := (interrupts, set ram address (Byte.ofInt value))

end FlatRam

/-- One write as it was put on a bus. -/
structure BusWrite where
  address : Int
  value : Int
  deriving DecidableEq, Repr

/-- A memory together with the writes made to it, the latest first. -/
structure Recorded (μ : Type) where
  memory : μ
  writes : List BusWrite := []

/-- The same bus, recording every write. -/
def Bus.recorded {μ : Type} (bus : Bus μ) : Bus (Recorded μ) where
  read address interrupts
    | ⟨memory, writes⟩ =>
      let (value, interrupts, memory) := bus.read address interrupts memory
      (value, interrupts, ⟨memory, writes⟩)
  write address value interrupts
    | ⟨memory, writes⟩ =>
      let (interrupts, memory) := bus.write address value interrupts memory
      (interrupts, ⟨memory, ⟨address, value⟩ :: writes⟩)

end Handheld.Cpu
