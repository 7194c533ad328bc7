import Handheld.Proofs.Console.Refusal
import Handheld.Proofs.Memory.Routing

/-! Plain memory behind the bus.
At most addresses the machine only stores bytes. There it answers like a memory without any
devices, whatever happens at other addresses and inside the devices meanwhile.
-/

namespace Handheld.Memory

-----------------------------------------------------------------------------------------
-- Cells
-----------------------------------------------------------------------------------------

/-- Echo addresses stand for work memory. -/
def direct (address : Nat) : Nat :=
  if 0xE000 ≤ address ∧ address ≤ 0xFDFF then address - 0x2000 else address

/-- First and last addresses of what stores bytes: video memory, work memory, sprites, sound and
display registers, and high memory.
-/
def storage : List (Nat × Nat) :=
  [(0x8000, 0x9FFF), (0xC000, 0xDFFF), (0xFE00, 0xFE9F), (0xFF10, 0xFF3F), (0xFF40, 0xFF4B),
    (0xFF80, 0xFFFE)]

/-- First and last addresses of what nobody owns. -/
def gaps : List (Nat × Nat) :=
  [(0xFEA0, 0xFEFF), (0xFF03, 0xFF03), (0xFF08, 0xFF0E), (0xFF4C, 0xFF7F)]

def Among (ranges : List (Nat × Nat)) (address : Nat) : Prop :=
  ∃ range ∈ ranges, range.1 ≤ address ∧ address ≤ range.2

instance (ranges : List (Nat × Nat)) (address : Nat) : Decidable (Among ranges address) :=
  inferInstanceAs (Decidable (∃ range ∈ ranges, range.1 ≤ address ∧ address ≤ range.2))

/-- The cell that one of the 65536 addresses denotes, by its lowest address. -/
def cellAt? (address : Nat) : Option Nat :=
  if Among storage (direct address) then some (direct address) else none

/-- The cell that a number denotes on the bus. -/
def cell? (address : Int) : Option Nat :=
  cellAt? (address % 0x10000).toNat

/-- Nobody owns what a number denotes on the bus. -/
def IsGap (address : Int) : Prop :=
  Among gaps (address % 0x10000).toNat

instance (address : Int) : Decidable (IsGap address) :=
  inferInstanceAs (Decidable (Among gaps (address % 0x10000).toNat))

theorem among_storage_iff {address : Nat}
    : Among storage address
        ↔ (0x8000 ≤ address ∧ address ≤ 0x9FFF) ∨ (0xC000 ≤ address ∧ address ≤ 0xDFFF)
          ∨ (0xFE00 ≤ address ∧ address ≤ 0xFE9F) ∨ (0xFF10 ≤ address ∧ address ≤ 0xFF3F)
          ∨ (0xFF40 ≤ address ∧ address ≤ 0xFF4B) ∨ (0xFF80 ≤ address ∧ address ≤ 0xFFFE) := by
  simp [Among, storage]

theorem among_gaps_iff {address : Nat}
    : Among gaps address
        ↔ (0xFEA0 ≤ address ∧ address ≤ 0xFEFF) ∨ address = 0xFF03
          ∨ (0xFF08 ≤ address ∧ address ≤ 0xFF0E) ∨ (0xFF4C ≤ address ∧ address ≤ 0xFF7F) := by
  simp only [Among, gaps, List.mem_cons, List.not_mem_nil, or_false, exists_eq_or_imp,
    exists_eq_left]
  omega

theorem direct_eq {address : Nat} (away : address < 0xE000 ∨ 0xFDFF < address)
    : direct address = address :=
  if_neg (by omega)

theorem direct_echo {address : Nat} (echo : 0xE000 ≤ address ∧ address ≤ 0xFDFF)
    : direct address = address - 0x2000 :=
  if_pos echo

theorem cellAt?_stored {address cell : Nat} (own : direct address = cell)
    (stored : Among storage cell)
    : some cell = cellAt? address := by
  rw [cellAt?, own, if_pos stored]

theorem cellAt?_other {address : Nat} (other : ¬Among storage (direct address))
    : none = cellAt? address := by
  rw [cellAt?, if_neg other]

-----------------------------------------------------------------------------------------
-- The places behind them
-----------------------------------------------------------------------------------------

/-- The cell at a place, if the place stores a byte. -/
def Place.cell? : Place → Option Nat
  | .vram offset => some (0x8000 + offset)
  | .wram offset => some (0xC000 + offset)
  | .oam offset => some (0xFE00 + offset)
  | .audio offset => some (0xFF10 + offset)
  | .video offset => some (0xFF40 + offset)
  | .hram offset => some (0xFF80 + offset)
  | _ => none

/-- No two places store the same cell. -/
theorem Place.cell?_injective {p q : Place} {cell : Nat} (left : p.cell? = some cell)
    (right : q.cell? = some cell)
    : p = q := by
  cases p <;> cases q <;> simp only [Place.cell?, Option.some.injEq, reduceCtorEq] at left right
  all_goals grind

theorem devicePlace_cell?
    : ∀ offset : Fin 0x80, (devicePlace (0xFF00 + offset)).cell? = cellAt? (0xFF00 + offset) := by
  decide

theorem devicePlace_gap
    : ∀ offset : Fin 0x80, Among gaps (0xFF00 + offset) →
        devicePlace (0xFF00 + offset) = .vacant := by
  decide

/-- The place behind an address stores just the cell that the address denotes. -/
theorem place_cell? (address : Address) : (place address).cell? = cellAt? address := by
  have bound := address.isLt
  rw [place]
  split
  case isTrue rom => exact cellAt?_other (by rw [among_storage_iff, direct]; grind)
  split
  case isTrue vram =>
      have own : address.val = 0x8000 + (address.val - 0x8000) := by omega
      exact cellAt?_stored ((direct_eq (by omega)).trans own) (among_storage_iff.mpr (by omega))
  split
  case isTrue cartridgeRam => exact cellAt?_other (by rw [among_storage_iff, direct]; grind)
  split
  case isTrue wram =>
      have own : address.val = 0xC000 + (address.val - 0xC000) := by omega
      exact cellAt?_stored ((direct_eq (by omega)).trans own) (among_storage_iff.mpr (by omega))
  split
  case isTrue echo =>
      have own : address.val - 0x2000 = 0xC000 + (address.val - 0xE000) := by omega
      exact cellAt?_stored ((direct_echo (by omega)).trans own) (among_storage_iff.mpr (by omega))
  split
  case isTrue oam =>
      have own : address.val = 0xFE00 + (address.val - 0xFE00) := by omega
      exact cellAt?_stored ((direct_eq (by omega)).trans own) (among_storage_iff.mpr (by omega))
  split
  case isTrue unusable => exact cellAt?_other (by rw [among_storage_iff, direct]; grind)
  split
  case isTrue device =>
      have listed := devicePlace_cell? ⟨address - 0xFF00, by omega⟩
      have same : 0xFF00 + (address.val - 0xFF00) = address := by omega
      simp only [same] at listed
      exact listed
  split
  case isTrue hram =>
      have own : address.val = 0xFF80 + (address.val - 0xFF80) := by omega
      exact cellAt?_stored ((direct_eq (by omega)).trans own) (among_storage_iff.mpr (by omega))
  case isFalse enable => exact cellAt?_other (by rw [among_storage_iff, direct]; grind)

/-- Nothing answers in the gaps. -/
theorem place_gap {address : Address} (gap : Among gaps address)
    : place address = .deadArea ∨ place address = .vacant := by
  have bounds := among_gaps_iff.mp gap
  by_cases dead : address.val < 0xFF00
  · left
    rw [place, dif_neg (by omega), dif_neg (by omega), dif_neg (by omega), dif_neg (by omega),
      dif_neg (by omega), dif_neg (by omega), if_pos dead]
  right
  rw [place_device (by omega) (by omega)]
  have listed := devicePlace_gap ⟨address - 0xFF00, by omega⟩
  have same : 0xFF00 + (address.val - 0xFF00) = address := by omega
  simp only [same] at listed
  exact listed gap

-----------------------------------------------------------------------------------------
-- What a write leaves in a cell
-----------------------------------------------------------------------------------------

theorem vector_get_set {size : Nat} (bytes : Vector Byte size) (place other : Fin size)
    (value : Byte)
    : (bytes.set place value place.isLt).get other
      = if place = other then value else bytes.get other := by
  have index (bytes : Vector Byte size) (at_ : Fin size) : bytes.get at_ = bytes[at_.val] := rfl
  rw [index, index, Vector.getElem_set]
  simp only [Fin.ext_iff]

/-- What is stored at a place depends on the memory alone, and a write changes it just there. -/
theorem get_set {q : Place} {cell : Nat} (stored : q.cell? = some cell) (m : Memory) (p : Place)
    (value : Byte) (before after : Interrupts)
    : (m.set p value before).2.get after q = if p = q then value else m.get before q := by
  cases q with
  | vram offset | wram offset | oam offset | audio offset | video offset | hram offset =>
      cases p with
      | vram other | wram other | oam other | audio other | video other | hram other =>
          -- Of two kinds of place either both store in one row, or they have nothing in common.
          first
          | exact (if_neg nofun).symm
          | simp only [Place.vram.injEq, Place.wram.injEq, Place.oam.injEq, Place.audio.injEq,
              Place.video.injEq, Place.hram.injEq]
            exact vector_get_set _ other offset value
      | _ => exact (if_neg nofun).symm
  | _ => cases stored

/-- Two memories store the same bytes. -/
structure SameStorage (m n : Memory) : Prop where
  vram : m.peripherals.vram = n.peripherals.vram
  wram : m.wram = n.wram
  oam : m.peripherals.oam = n.peripherals.oam
  audio : m.peripherals.audio = n.peripherals.audio
  video : m.peripherals.video = n.peripherals.video
  hram : m.hram = n.hram

theorem SameStorage.get {m n : Memory} (same : m.SameStorage n) {q : Place} {cell : Nat}
    (stored : q.cell? = some cell) (before after : Interrupts)
    : m.get before q = n.get after q := by
  cases q with
  | vram offset => exact congrArg (Window.get · offset) same.vram
  | wram offset => exact congrArg (Vector.get · offset) same.wram
  | oam offset => exact congrArg (Window.get · offset) same.oam
  | audio offset => exact congrArg (Window.get · offset) same.audio
  | video offset => exact congrArg (Window.get · offset) same.video
  | hram offset => exact congrArg (Vector.get · offset) same.hram
  | _ => cases stored

/-- A write puts its byte into the cell that its address denotes, and leaves all others. -/
theorem peek_write (m : Memory) (interrupts : Interrupts) (address value : Int) {other : Int}
    {cell : Nat} (stored : cell? other = some cell)
    : (m.write address value interrupts).2.peek (m.write address value interrupts).1 other
      = if cell? address = some cell then Byte.ofInt value else m.peek interrupts other := by
  have held : (place (Address.ofInt other)).cell? = some cell := (place_cell? _).trans stored
  have same : place (Address.ofInt address) = place (Address.ofInt other)
      ↔ cell? address = some cell := by
    rw [← stored]
    constructor
    · intro same
      have cells := congrArg Place.cell? same
      rwa [place_cell?, place_cell?] at cells
    · intro same
      exact Place.cell?_injective ((place_cell? _).trans (same.trans stored)) held
  rw [peek, write, get_set held]
  by_cases hit : cell? address = some cell
  · rw [if_pos (same.mpr hit), if_pos hit]
  · rw [if_neg (mt same.mp hit), if_neg hit]
    exact SameStorage.get ⟨rfl, rfl, rfl, rfl, rfl, rfl⟩ held _ _

-----------------------------------------------------------------------------------------
-- What may happen to a memory
-----------------------------------------------------------------------------------------

/-- An access, the passing of time, or something that a host does. -/
inductive Act
  | read (address : Int)
  | write (address value : Int)
  | tick (cycles : Int)
  | request (source : Source)
  | press (key : Key)
  | release (key : Key)
  | releaseAll
  deriving DecidableEq, Repr

/-- What an act does to the interrupt controller and the memory, unless an access is refused. -/
def perform? (act : Act) (around : Interrupts × Memory) : Option (Interrupts × Memory) :=
  let (interrupts, memory) := around
  match act with
  | .read address => (memory.read? address interrupts).map fun found => (interrupts, found.2)
  | .write address value => memory.write? address value interrupts
  | .tick cycles =>
    let ticked := memory.timer.tick cycles interrupts
    some (ticked.2, { memory with timer := ticked.1 })
  | .request source => some (interrupts.request source, memory)
  | .press key =>
    let pressed := memory.peripherals.joypad.press key interrupts
    some (pressed.2, memory.onPeripherals fun p => { p with joypad := pressed.1 })
  | .release key =>
    some (interrupts, memory.onPeripherals fun p => { p with joypad := p.joypad.release key })
  | .releaseAll =>
    some (interrupts, memory.onPeripherals fun p => { p with joypad := p.joypad.releaseAll })

/-- Acts one after the other. -/
def performAll? : List Act → Interrupts × Memory → Option (Interrupts × Memory)
  | [], around => some around
  | act :: rest, around => (perform? act around).bind (performAll? rest)

/-- The byte that an act puts into a cell. -/
def Act.byteFor? (cell : Nat) : Act → Option Byte
  | .write address value => if cell? address = some cell then some (Byte.ofInt value) else none
  | _ => none

/-- The byte that some acts have put into a cell last. -/
def latest? (cell : Nat) : List Act → Option Byte
  | [] => none
  | act :: rest => (latest? cell rest).or (act.byteFor? cell)

/-- Some acts have built nothing anew, and have left in each cell what was put there last. -/
structure Follows (acts : List Act) (s t : Interrupts × Memory) : Prop where
  build : t.2.build = s.2.build
  cells {address : Int} {cell : Nat} (stored : cell? address = some cell)
    : t.2.peek t.1 address = (latest? cell acts).getD (s.2.peek s.1 address)

variable {s t : Interrupts × Memory}

theorem Follows.nil : Follows [] s s := ⟨rfl, fun _ => rfl⟩

theorem Follows.cons {act : Act} {rest : List Act} {between : Interrupts × Memory}
    (first : Follows [act] s between) (later : Follows rest between t)
    : Follows (act :: rest) s t := by
  refine ⟨later.build.trans first.build, fun {address cell} stored => ?_⟩
  rw [later.cells stored, first.cells stored, latest?, latest?, latest?]
  cases latest? cell rest <;> rfl

/-- An act that writes nothing follows as soon as it leaves the cells alone. -/
theorem Follows.silent {act : Act} (silent : ∀ cell, act.byteFor? cell = none)
    (build : t.2.build = s.2.build) (same : t.2.SameStorage s.2)
    : Follows [act] s t := by
  refine ⟨build, fun {address cell} stored => ?_⟩
  have held : (place (Address.ofInt address)).cell? = some cell := (place_cell? _).trans stored
  rw [latest?, silent]
  exact same.get held t.1 s.1

theorem Follows.write (interrupts : Interrupts) (m : Memory) (address value : Int)
    : Follows [.write address value] (interrupts, m) (m.write address value interrupts) := by
  refine ⟨write_build address value interrupts, fun {other cell} stored => ?_⟩
  rw [peek_write m interrupts address value stored, latest?, Act.byteFor?]
  split <;> rfl

/-- Every act can be carried out, and does to the cells what it would do to a plain memory. -/
theorem exists_perform? (standard : s.2.build.Standard) (act : Act)
    : ∃ t, perform? act s = some t ∧ Follows [act] s t := by
  obtain ⟨interrupts, m⟩ := s
  cases act with
  | read address =>
      have found := congrArg (Option.map fun found => (interrupts, found.2))
        (read?_eq standard address interrupts)
      exact ⟨_, found, .silent (fun _ => rfl) rfl ⟨rfl, rfl, rfl, rfl, rfl, rfl⟩⟩
  | write address value =>
      exact ⟨_, write?_eq standard address value interrupts, .write interrupts m address value⟩
  | tick | request | press | release | releaseAll =>
      exact ⟨_, rfl, .silent (fun _ => rfl) rfl ⟨rfl, rfl, rfl, rfl, rfl, rfl⟩⟩

/-- So do many, of which the last one that wrote to a cell counts. -/
theorem exists_performAll? (standard : s.2.build.Standard) (acts : List Act)
    : ∃ t, performAll? acts s = some t ∧ Follows acts s t := by
  induction acts generalizing s with
  | nil => exact ⟨s, rfl, .nil⟩
  | cons act rest ih =>
      obtain ⟨between, performed, first⟩ := exists_perform? standard act
      obtain ⟨t, continued, later⟩ := ih (first.build ▸ standard)
      refine ⟨t, ?_, first.cons later⟩
      rw [performAll?, performed]
      exact continued

-----------------------------------------------------------------------------------------
-- The memory behind all devices
-----------------------------------------------------------------------------------------

/-- What accesses meet behind some acts: in a cell the byte put there last or, without any, the byte
from before the acts, and in a gap nothing. None is refused, and whole turns of the address space
make no difference.
-/
structure Plain (acts : List Act) (s t : Interrupts × Memory) : Prop where
  stored {address : Int} {cell : Nat} (stored : cell? address = some cell)
    : ∃ after, t.2.read? address t.1
        = some ((latest? cell acts).getD (s.2.peek s.1 address), after)
  unheard {address : Int} (gap : IsGap address)
    : ∃ after, t.2.read? address t.1 = some (0xFF, after)
  lost {address : Int} (gap : IsGap address) (value : Int)
    : t.2.write? address value t.1
      = some (t.1,
          { t.2 with
            writeCount := t.2.writeCount + 1
            log := t.2.log.noteWrite (Address.ofInt address) (Byte.ofInt value) })
  answered (address : Int) : (t.2.read? address t.1).isSome
  accepted (address value : Int) : (t.2.write? address value t.1).isSome
  wrapped (address turns : Int)
    : t.2.read? (address + 0x10000 * turns) t.1 = t.2.read? address t.1
      ∧ ∀ value, t.2.write? (address + 0x10000 * turns) value t.1 = t.2.write? address value t.1

theorem address_turns (address turns : Int)
    : Address.ofInt (address + 0x10000 * turns) = Address.ofInt address := by
  simp only [Address.ofInt, Int.add_mul_emod_self_left]

theorem Follows.plain {acts : List Act} (follows : Follows acts s t)
    (standard : t.2.build.Standard)
    : Plain acts s t := by
  have empty {address : Int} (gap : IsGap address)
      : place (Address.ofInt address) = .deadArea ∨ place (Address.ofInt address) = .vacant :=
    place_gap gap
  constructor
  case stored =>
      intro address cell stored
      rw [read?_eq standard, ← follows.cells stored]
      exact ⟨_, rfl⟩
  case unheard =>
      intro address gap
      rw [read?_eq standard, Memory.read, peek]
      rcases empty gap with here | here <;> rw [here] <;> exact ⟨_, rfl⟩
  case lost =>
      intro address gap value
      rw [write?_eq standard, Memory.write]
      rcases empty gap with here | here <;> rw [here] <;> rfl
  case answered =>
      intro address
      rw [read?_eq standard]
      rfl
  case accepted =>
      intro address value
      rw [write?_eq standard]
      rfl
  case wrapped =>
      intro address turns
      simp only [read?, write?, address_turns, implies_true, and_self]

/-- Whatever is done to a memory as it was built, nothing of it is refused, and its cells hold what
was written there last.
-/
theorem performAll_plain (standard : s.2.build.Standard) (acts : List Act)
    : ∃ t, performAll? acts s = some t ∧ Plain acts s t := by
  obtain ⟨t, performed, follows⟩ := exists_performAll? standard acts
  exact ⟨t, performed, follows.plain (follows.build ▸ standard)⟩

/-- A byte that is written to the echo below address zero shows up in work memory, though the timer
and a key run across it.
-/
theorem performAll_plain_echo
    : ∃ t, performAll? [.write (-0x1F00) 0x1FE, .tick 1024, .press .start, .write 0xC0FF 1]
          ({}, Console.blank.memory) = some t
        ∧ (∃ after, t.2.read? 0xC100 t.1 = some (0xFE, after))
        ∧ ∃ after, t.2.read? 0xFF08 t.1 = some (0xFF, after) := by
  have standard : Console.blank.memory.build.Standard := ⟨by decide, rfl, rfl, rfl, rfl⟩
  let start : Interrupts × Memory := ({}, Console.blank.memory)
  obtain ⟨t, performed, plain⟩ := @performAll_plain start standard
    [.write (-0x1F00) 0x1FE, .tick 1024, .press .start, .write 0xC0FF 1]
  have held : cell? 0xC100 = some 0xC100 := by decide
  have gap : IsGap 0xFF08 := by decide
  exact ⟨t, performed, plain.stored held, plain.unheard gap⟩

end Handheld.Memory
