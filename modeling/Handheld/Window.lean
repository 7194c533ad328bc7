import Handheld.Attempt

/-!
Register windows: bytes that the machine passes on to a display or a sound circuit and never
interprets.
-/

namespace Handheld

/-- A row of `size` bytes in the address space. -/
structure Window (size : Nat) where
  name : Text
  start : Int
  /-- The size that the window claims to have. -/
  declared : Int := size
  /-- What every byte is reset to. -/
  fill : Byte := 0
  data : Vector Byte size := Vector.replicate size fill
  deriving DecidableEq, Repr

namespace Window

variable {size : Nat}

/-- The last address of a window. -/
def last (window : Window size) : Int :=
  window.start + window.declared - 1

/-- Whether an address belongs to a window. -/
def contains (window : Window size) (address : Int) : Bool :=
  window.start ≤ address ∧ address ≤ window.last

/-- The place of an offset from the first byte. A negative offset counts from the end of the
window. -/
def place? (size : Nat) (offset : Int) : Option (Fin size) :=
  let index := if offset < 0 then offset + size else offset
  if h : 0 ≤ index ∧ index < size then some ⟨index.toNat, by omega⟩ else none

/-- A byte of a window. -/
def get (window : Window size) (place : Fin size) : Byte :=
  Vector.get window.data place

/-- Replaces a byte of a window. -/
def set (window : Window size) (place : Fin size) (value : Byte) : Window size :=
  { window with data := window.data.set place value place.isLt }

/-- Reads the byte at an address. -/
def read (window : Window size) (address : Int) : Except Error Byte :=
  match place? size (address - window.start) with
  | some place => .ok (window.get place)
  | none => .error .outsideWindow

/-- Writes the byte at an address. -/
def write (window : Window size) (address value : Int) : Except Error (Window size) :=
  match place? size (address - window.start) with
  | some place => .ok (window.set place (Byte.ofInt value))
  | none => .error .outsideWindow

/-- Fills a window anew. -/
def reset (window : Window size) : Window size :=
  { window with data := Vector.replicate size window.fill }

/-- Replaces all bytes of a window; their number has to be the size that the window claims. -/
def restore (bytes : Bytes) (window : Window size) : Except Error (Window size) :=
  if h : bytes.size = size ∧ window.declared = size then
    .ok { window with data := ⟨bytes, h.1⟩ }
  else .error (.windowSize window.name (toString window.declared) bytes.size)

end Window

end Handheld
