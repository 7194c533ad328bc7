import Handheld.Cpu.Basic

/-!
Snapshots of the register file and the latches, and the differences between two of them.
-/

namespace Handheld.Cpu

/-- The registers and latches of a processor. Every number is kept as it was given. -/
structure Snapshot where
  pc : Int
  sp : Int := 0xFFFE
  a : Int := 0
  f : Int := 0
  b : Int := 0
  c : Int := 0
  d : Int := 0
  e : Int := 0
  h : Int := 0
  l : Int := 0
  ime : Bool := false
  eiPending : Bool := false
  halted : Bool := false
  stopped : Bool := false
  haltBug : Bool := false
  /-- Whether the flags were last set one by one. -/
  flagwise : Bool := false
  deriving DecidableEq, Repr

/-- A named value before and after a change. -/
structure Change (α : Type) where
  name : String
  before : α
  after : α
  deriving DecidableEq, Repr

/-- The fields whose values differ between two lists of the same fields. -/
def changes {α : Type} (same : α → α → Bool) (before after : List (String × α))
    : List (Change α) :=
  (before.zip after).filterMap fun ((name, old), (_, new)) =>
    if same old new then none else some ⟨name, old, new⟩

/-- A change under a name in capitals, as registers have it. -/
def Change.capital {α : Type} (change : Change α) : Change α :=
  { change with name := change.name.toUpper }

namespace Snapshot

variable {μ : Type}

/-- What a snapshot of a running processor holds. -/
def ofCore (core : Core μ) : Snapshot :=
  let r := core.cpu.registers
  { pc := r.pc, sp := r.sp, a := r.a, f := r.f, b := r.b, c := r.c, d := r.d, e := r.e
    h := r.h, l := r.l
    ime := core.interrupts.master
    eiPending := core.cpu.eiPending
    halted := core.cpu.halted
    stopped := core.cpu.stopped
    haltBug := core.cpu.haltBug
    flagwise := r.flagwise }

/-- The register file that a snapshot describes. Only the flag bits of `f` count. -/
def registers (snapshot : Snapshot) : Registers :=
  { a := snapshot.a, flags := Flags.ofInt snapshot.f, flagwise := snapshot.flagwise
    b := snapshot.b, c := snapshot.c, d := snapshot.d, e := snapshot.e
    h := snapshot.h, l := snapshot.l, sp := snapshot.sp, pc := snapshot.pc }

/-- Puts a snapshot into a processor. Counters and the record of the last step stay. -/
def applyTo (snapshot : Snapshot) (core : Core μ) : Core μ :=
  { core with
    cpu := { core.cpu with
      registers := snapshot.registers
      eiPending := snapshot.eiPending
      halted := snapshot.halted
      stopped := snapshot.stopped
      haltBug := snapshot.haltBug }
    interrupts := core.interrupts.setMaster snapshot.ime }

/-- The registers under their names. -/
def registerFields (snapshot : Snapshot) : List (String × Int) :=
  [("pc", snapshot.pc), ("sp", snapshot.sp), ("a", snapshot.a), ("f", snapshot.f),
    ("b", snapshot.b), ("c", snapshot.c), ("d", snapshot.d), ("e", snapshot.e),
    ("h", snapshot.h), ("l", snapshot.l)]

/-- The latches under their names, as zero or one. -/
def latchFields (snapshot : Snapshot) : List (String × Int) :=
  [("ime", snapshot.ime.toNat), ("ei_pending", snapshot.eiPending.toNat),
    ("halted", snapshot.halted.toNat), ("stopped", snapshot.stopped.toNat),
    ("halt_bug", snapshot.haltBug.toNat)]

/-- All fields under their names. -/
def fields (snapshot : Snapshot) : List (String × Int) :=
  snapshot.registerFields ++ snapshot.latchFields

/-- The fields in which two snapshots differ. Registers appear in capitals. -/
def diff (before after : Snapshot) : List (Change Int) :=
  (changes (· = ·) before.registerFields after.registerFields).map Change.capital
    ++ changes (· = ·) before.latchFields after.latchFields

end Snapshot

end Handheld.Cpu
