import Handheld.Cpu.Panel
import Handheld.Cpu.Snapshot

/-!
Sheets: registers and latches as a host writes them down. A sheet takes any value in any field.
What a value means shows only when the sheet is compared, read or put into a processor.
-/

namespace Handheld.Cpu

/-- Values that a host has left in the latches. A latch is set if its value counts as switched
on, and it is told as the whole number that the value stands for. -/
structure Latches where
  eiPending : Json := .bool false
  halted : Json := .bool false
  stopped : Json := .bool false
  haltBug : Json := .bool false

namespace Latches

/-- The latches of a snapshot. -/
def ofSnapshot (snapshot : Snapshot) : Latches where
  eiPending := .bool snapshot.eiPending
  halted := .bool snapshot.halted
  stopped := .bool snapshot.stopped
  haltBug := .bool snapshot.haltBug

/-- The latches after a step that ended in a snapshot. An instruction and an interrupt leave latches
of their own, while a step that did neither leaves what was there. An instruction that came to a
halt half-way has not yet looked at a pending switch-on. -/
def afterStep (latches : Latches) (idle halfway : Bool) (snapshot : Snapshot) : Latches :=
  let fresh := ofSnapshot snapshot
  if idle then latches
  else if halfway then { fresh with eiPending := latches.eiPending }
  else fresh

/-- Puts the latches into a processor. -/
def applyTo (latches : Latches) (cpu : Cpu) : Cpu :=
  { cpu with
    eiPending := latches.eiPending.isOn
    halted := latches.halted.isOn
    stopped := latches.stopped.isOn
    haltBug := latches.haltBug.isOn }

/-- The latches under their names. -/
def fields (latches : Latches) : List (String × Json) :=
  [("ei_pending", latches.eiPending), ("halted", latches.halted), ("stopped", latches.stopped),
    ("halt_bug", latches.haltBug)]

/-- Leaves a value in the latch of a given name. -/
def set? (latches : Latches) (name : Text) (value : Json) : Option Latches :=
  if name = "ei_pending" then some { latches with eiPending := value }
  else if name = "halted" then some { latches with halted := value }
  else if name = "stopped" then some { latches with stopped := value }
  else if name = "halt_bug" then some { latches with haltBug := value }
  else none

end Latches

/-- Registers and latches as they were written down. -/
structure Sheet where
  pc : Json
  sp : Json := .int 0xFFFE
  a : Json := .int 0
  f : Json := .int 0
  b : Json := .int 0
  c : Json := .int 0
  d : Json := .int 0
  e : Json := .int 0
  h : Json := .int 0
  l : Json := .int 0
  ime : Json := .bool false
  latches : Latches := {}
  /-- Whether the flags were last set one by one. -/
  flagwise : Bool := false

namespace Sheet

/-- The registers under their names. -/
def registerFields (sheet : Sheet) : List (String × Json) :=
  [("pc", sheet.pc), ("sp", sheet.sp), ("a", sheet.a), ("f", sheet.f), ("b", sheet.b),
    ("c", sheet.c), ("d", sheet.d), ("e", sheet.e), ("h", sheet.h), ("l", sheet.l)]

/-- The master switch and the latches under their names. -/
def latchFields (sheet : Sheet) : List (String × Json) :=
  ("ime", sheet.ime) :: sheet.latches.fields

/-- All fields under their names. -/
def fields (sheet : Sheet) : List (String × Json) :=
  sheet.registerFields ++ sheet.latchFields

/-- The value of the field of a given name. -/
def find? (sheet : Sheet) (name : Text) : Option Json :=
  sheet.fields.findSome? fun (field, value) => if name = field then some value else none

/-- A sheet on which some fields are filled in. The program counter has to be among them, and no
field may be made up. -/
def ofJson (given : Json) : Except Misfit Sheet := do
  let .object members := given | throw .wrongSort
  let some pc := given.find? "pc" | throw .wrongSort
  let usual : Sheet := { pc }
  if members.any fun (key, _) => (usual.find? key).isNone then
    throw .wrongSort
  let field (key : String) (default : Json) : Json := (given.find? key).getD default
  return {
    pc
    sp := field "sp" usual.sp
    a := field "a" usual.a
    f := field "f" usual.f
    b := field "b" usual.b
    c := field "c" usual.c
    d := field "d" usual.d
    e := field "e" usual.e
    h := field "h" usual.h
    l := field "l" usual.l
    ime := field "ime" usual.ime
    latches := {
      eiPending := field "ei_pending" usual.latches.eiPending
      halted := field "halted" usual.latches.halted
      stopped := field "stopped" usual.latches.stopped
      haltBug := field "halt_bug" usual.latches.haltBug } }

/-- What a snapshot says, with the values that a host has left in registers and latches. -/
def ofSnapshot (snapshot : Snapshot) (strays : Strays) (latches : Latches) : Sheet :=
  let content := strays.content snapshot.registers
  { pc := content .pc
    sp := content (.word .sp)
    a := content (.byte .a)
    f := (strays.lookup .flags).getD (.int snapshot.f)
    b := content (.byte .b)
    c := content (.byte .c)
    d := content (.byte .d)
    e := content (.byte .e)
    h := content (.byte .h)
    l := content (.byte .l)
    ime := .bool snapshot.ime
    latches
    flagwise := snapshot.flagwise }

/-- The snapshot that a sheet describes, as far as numbers go. -/
def snapshot (sheet : Sheet) : Snapshot where
  pc := weigh sheet.pc
  sp := weigh sheet.sp
  a := weigh sheet.a
  f := weigh sheet.f
  b := weigh sheet.b
  c := weigh sheet.c
  d := weigh sheet.d
  e := weigh sheet.e
  h := weigh sheet.h
  l := weigh sheet.l
  ime := sheet.ime.isOn
  eiPending := sheet.latches.eiPending.isOn
  halted := sheet.latches.halted.isOn
  stopped := sheet.latches.stopped.isOn
  haltBug := sheet.latches.haltBug.isOn
  flagwise := sheet.flagwise

/-- The stray values on a sheet. -/
def strays (sheet : Sheet) : Strays :=
  [(.pc, sheet.pc), (.word .sp, sheet.sp), (.byte .a, sheet.a), (.byte .b, sheet.b),
    (.byte .c, sheet.c), (.byte .d, sheet.d), (.byte .e, sheet.e), (.byte .h, sheet.h),
    (.byte .l, sheet.l)].foldl (fun strays (name, value) => strays.leave name value) []

/-- Fields with the whole numbers that their values stand for. -/
def readFields (fields : List (String × Json)) : Except Misfit (List (String × Json)) :=
  fields.mapM fun (name, value) => return (name, .int (← value.toInt))

/-- A sheet as a document of whole numbers. -/
def toJson (sheet : Sheet) : Except Misfit Json := do
  return .object ((← readFields sheet.fields).map fun (name, value) => (↑name, value))

/-- The fields in which two sheets differ: registers by their values, latches by their numbers. -/
def diff (before after : Sheet) : Except Misfit (List (Change Json)) := do
  let registers := changes Json.same before.registerFields after.registerFields
  let old ← readFields before.latchFields
  let new ← readFields after.latchFields
  return registers.map Change.capital ++ changes Json.same old new

/-- Whether two sheets have the same values in all fields. -/
def same (a b : Sheet) : Bool :=
  (a.fields.zip b.fields).all fun ((_, x), (_, y)) => x.same y

end Sheet

end Handheld.Cpu
