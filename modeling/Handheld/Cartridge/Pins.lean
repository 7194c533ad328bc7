import Handheld.Cartridge.Basic

/-!
The pins of a cartridge in the hands of a host, who can name any value as a place. A fraction is no
place in a memory, but it lies between places and can so reach the bank control or nothing at all.
-/

namespace Handheld.Cartridge

/-- Whether a number lies where external memory answers. -/
def inRam (place : Float) (cartridge : Cartridge) : Bool :=
  0xA000 ≤ place && place ≤ 0xBFFF && (cartridge.ramCell? 0).isSome

/-- Reads at a place that a host names. -/
def readAt (place : Json) (cartridge : Cartridge) : Except Misfit Byte := do
  match place with
  | .number (.float place) =>
    if place < 0x8000 || cartridge.inRam place then throw .wrongSort
    return openBus
  | place => return cartridge.read (← place.toOperand)

/-- A write to the bank control somewhere between two places. One circuit looks at single bits of
the place in the lower half of its area. -/
def controlNear (place : Float) (value : Int) (cartridge : Cartridge) : Except Misfit Cartridge := do
  if cartridge.mapper = .mbc2 then
    if place < 0x4000 then throw .wrongSort
    return cartridge
  let below := if Number.isFinite (.float place) then Decimal.floor place else 0
  return cartridge.write below value

/-- Writes a value at a place that a host names. The value is looked at first. -/
def writeAt (place value : Json) (cartridge : Cartridge) : Except Misfit Cartridge := do
  let value ← value.toOperand
  match place with
  | .number (.float place) =>
    if place < 0x8000 then cartridge.controlNear place value
    else if cartridge.inRam place then throw .wrongSort
    else return cartridge
  | place => return cartridge.write (← place.toOperand) value

end Handheld.Cartridge
