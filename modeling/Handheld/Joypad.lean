import Handheld.Attempt

/-!
The key matrix: eight keys on two select lines, read through one register in which zero means
pressed.
-/

namespace Handheld

/-- The keys of the joypad. -/
inductive Key
  | right
  | left
  | up
  | down
  | a
  | b
  | select
  | start
  deriving DecidableEq, Repr

namespace Key

/-- All keys in alphabetical order of their names. -/
def all : List Key := [.a, .b, .down, .left, .right, .select, .start, .up]

/-- The place of a key in the matrix: the direction keys first, then the buttons. -/
def index : Key → Nat
  | .right => 0
  | .left => 1
  | .up => 2
  | .down => 3
  | .a => 4
  | .b => 5
  | .select => 6
  | .start => 7

/-- The name under which reports and saved states mention a key. -/
def name : Key → String
  | .right => "RIGHT"
  | .left => "LEFT"
  | .up => "UP"
  | .down => "DOWN"
  | .a => "A"
  | .b => "B"
  | .select => "SELECT"
  | .start => "START"

/-- The key with a given name. -/
def ofName? (name : Text) : Option Key :=
  all.find? fun key => key.name = name

/-- The set that holds just one key. -/
def mask (key : Key) : BitVec 8 :=
  1#8 <<< key.index

end Key

/-- The state of the joypad. -/
structure Joypad where
  /-- The line of the direction keys is high, so they are not read. -/
  directionLine : Bool := true
  /-- The line of the buttons is high, so they are not read. -/
  buttonLine : Bool := true
  /-- The keys held down, each at its place in the matrix. -/
  held : BitVec 8 := 0
  deriving DecidableEq, Repr

namespace Joypad

/-- Whether a key is held down. -/
def isHeld (joypad : Joypad) (key : Key) : Bool :=
  joypad.held.getLsbD key.index

/-- Holds a key down. Only a key that was up asks for an interrupt. -/
def press (key : Key) (joypad : Joypad) (interrupts : Interrupts) : Joypad × Interrupts :=
  if joypad.isHeld key then (joypad, interrupts)
  else ({ joypad with held := joypad.held ||| key.mask }, interrupts.request .joypad)

/-- Lets a key go. -/
def release (key : Key) (joypad : Joypad) : Joypad :=
  { joypad with held := joypad.held &&& ~~~key.mask }

/-- Lets all keys go. -/
def releaseAll (joypad : Joypad) : Joypad :=
  { joypad with held := 0 }

/-- The select lines at bits four and five. -/
def lines (joypad : Joypad) : Int :=
  (16 * joypad.directionLine.toNat + 32 * joypad.buttonLine.toNat : Nat)

/-- The keys held down on the lines that are read. -/
def visible (joypad : Joypad) : BitVec 4 :=
  (if joypad.directionLine then 0 else joypad.held.extractLsb' 0 4)
    ||| (if joypad.buttonLine then 0 else joypad.held.extractLsb' 4 4)

/-- The register as the bus shows it. -/
def read (joypad : Joypad) : Byte :=
  Byte.ofInt (0xC0 + joypad.lines + (~~~joypad.visible).toNat)

/-- A write changes the select lines and nothing else. -/
def write (value : Int) (joypad : Joypad) : Joypad :=
  { joypad with directionLine := Bits.bit 4 value, buttonLine := Bits.bit 5 value }

/-- The names of the keys held down, in alphabetical order. -/
def heldNames (joypad : Joypad) : List String :=
  (Key.all.filter joypad.isHeld).map Key.name

/-- The joypad as a saved state holds it. -/
def saved (joypad : Joypad) : Json :=
  .object [
    ("select", .int joypad.lines),
    ("pressed", .array (joypad.heldNames.map fun (name : String) => .string name))]

/-- Takes over a saved state: first the lines, then the keys, all at once. No request is raised. -/
def restore (state : Json) : Attempt Joypad Unit := do
  let lines ← Attempt.expect (state.intMember "select" 0x30)
  modify (·.write lines)
  let listed ← Attempt.expect (state.member "pressed" (.array []))
  let elements ← Attempt.expect listed.elements
  let keys ← elements.mapM fun element => Attempt.expect (element.toNamed Key.ofName?)
  modify fun joypad => { joypad with held := keys.foldl (fun held key => held ||| key.mask) 0 }

end Joypad

end Handheld
