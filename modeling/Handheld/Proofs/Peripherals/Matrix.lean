import Handheld.Proofs.Cpu.Range
import Handheld.Proofs.Memory.Signals

/-! What the joypad makes of its history.
The keys that are down and the lines that are read decide about the register, in whatever order it
came to that, and only a key that was up calls the processor.
-/

namespace Handheld

-----------------------------------------------------------------------------------------
-- The matrix
-----------------------------------------------------------------------------------------

/-- The lines by which a half of the keys is read. -/
inductive Joypad.Line
  | directions
  | buttons
  deriving DecidableEq, Repr

/-- The bit of the register that holds a line high. -/
def Joypad.Line.bit : Line → Nat
  | .directions => 4
  | .buttons => 5

/-- The place of a line in the matrix. -/
def Joypad.Line.offset : Line → Nat
  | .directions => 0
  | .buttons => 4

namespace Key

/-- The line of a key. -/
def line : Key → Joypad.Line
  | .right | .left | .up | .down => .directions
  | .a | .b | .select | .start => .buttons

/-- The bit of the register at which a key is read. Two keys share each of them. -/
def column : Key → Nat
  | .right | .a => 0
  | .left | .b => 1
  | .up | .select => 2
  | .down | .start => 3

theorem getLsbD_mask (key other : Key) : key.mask.getLsbD other.index = decide (key = other) := by
  cases key <;> cases other <;> rfl

theorem exists_index {index : Nat} (bound : index < 8) : ∃ key : Key, key.index = index := by
  match index with
  | 0 => exact ⟨.right, rfl⟩
  | 1 => exact ⟨.left, rfl⟩
  | 2 => exact ⟨.up, rfl⟩
  | 3 => exact ⟨.down, rfl⟩
  | 4 => exact ⟨.a, rfl⟩
  | 5 => exact ⟨.b, rfl⟩
  | 6 => exact ⟨.select, rfl⟩
  | 7 => exact ⟨.start, rfl⟩

/-- No two keys are at one place. -/
theorem index_eq_iff {key : Key} {line : Joypad.Line} {column : Nat} (bound : column < 4)
    : key.index = line.offset + column ↔ key.line = line ∧ key.column = column := by
  cases key <;> cases line <;>
    simp only [index, Key.line, Key.column, Joypad.Line.offset, reduceCtorEq, true_and, false_and,
      iff_false] <;>
    omega

end Key

namespace Joypad

/-- A line is held high, so that its keys are not read. -/
def isHigh (joypad : Joypad) : Line → Bool
  | .directions => joypad.directionLine
  | .buttons => joypad.buttonLine

/-- What can happen to a joypad. The bus reads and writes its register. -/
inductive Act
  | press (key : Key)
  | release (key : Key)
  | releaseAll
  | read
  | write (value : Int)
  deriving DecidableEq, Repr

/-- What has happened to a joypad since a reset, the latest act first. -/
abbrev History := List Act

/-- What an act leaves behind. -/
def perform (act : Act) (state : Joypad × Interrupts) : Joypad × Interrupts :=
  match act with
  | .press key => state.1.press key state.2
  | .release key => (state.1.release key, state.2)
  | .releaseAll => (state.1.releaseAll, state.2)
  | .read => state
  | .write value => (state.1.write value, state.2)

/-- What an act makes of a key, if anything. -/
def Act.moves? (key : Key) : Act → Option Bool
  | .press other => if other = key then some true else none
  | .release other => if other = key then some false else none
  | .releaseAll => some false
  | .read | .write _ => none

namespace History

/-- Where a history leads. -/
def replay (interrupts : Interrupts) (history : History) : Joypad × Interrupts :=
  history.foldr perform ({}, interrupts)

/-- The last act that concerned a key has pressed it. -/
def isDown (history : History) (key : Key) : Bool :=
  (history.findSome? (Act.moves? key)).getD false

/-- What was written to the register last. A reset holds both lines high. -/
def written : History → Int
  | [] => 0x30
  | .write value :: _ => value
  | _ :: earlier => written earlier

/-- The keys of a line are read. -/
def selects (history : History) (line : Line) : Bool :=
  !Bits.bit line.bit history.written

/-- How often a key was pressed that was not down already. -/
def strokes : History → Nat
  | [] => 0
  | .press key :: earlier => strokes earlier + if isDown earlier key then 0 else 1
  | _ :: earlier => strokes earlier

end History

-----------------------------------------------------------------------------------------
-- Acts
-----------------------------------------------------------------------------------------

variable {joypad : Joypad} {interrupts : Interrupts}

theorem isHeld_press (joypad : Joypad) (interrupts : Interrupts) (key other : Key)
    : (joypad.press key interrupts).1.isHeld other
      = (decide (key = other) || joypad.isHeld other) := by
  rw [press]
  split
  case isTrue down =>
    by_cases own : key = other
    · rw [← own, down, Bool.or_true]
    · rw [decide_eq_false own, Bool.false_or]
  case isFalse => rw [isHeld, BitVec.getLsbD_or, Key.getLsbD_mask, Bool.or_comm, ← isHeld]

theorem isHeld_release (joypad : Joypad) (key other : Key)
    : (joypad.release key).isHeld other = (!decide (key = other) && joypad.isHeld other) := by
  have inside : other.index < 8 := by cases other <;> decide
  rw [release, isHeld, BitVec.getLsbD_and, BitVec.getLsbD_not, Key.getLsbD_mask, Bool.and_comm,
    decide_eq_true inside, Bool.true_and, ← isHeld]

theorem isHeld_releaseAll (joypad : Joypad) (key : Key) : joypad.releaseAll.isHeld key = false :=
  BitVec.getLsbD_zero

theorem press_interrupts (joypad : Joypad) (interrupts : Interrupts) (key : Key)
    : (joypad.press key interrupts).2
      = (Interrupts.request .joypad)^[if joypad.isHeld key then 0 else 1] interrupts := by
  rw [press]
  cases joypad.isHeld key <;> rfl

theorem isHigh_press (joypad : Joypad) (interrupts : Interrupts) (key : Key) (line : Line)
    : (joypad.press key interrupts).1.isHigh line = joypad.isHigh line := by
  rw [press]
  split
  · rfl
  · cases line <;> rfl

namespace History

variable {earlier : History}

theorem isDown_press (earlier : History) (key other : Key)
    : isDown (.press key :: earlier) other = (decide (key = other) || earlier.isDown other) := by
  by_cases own : key = other <;> simp [isDown, Act.moves?, own]

theorem isDown_release (earlier : History) (key other : Key)
    : isDown (.release key :: earlier) other = (!decide (key = other) && earlier.isDown other) := by
  by_cases own : key = other <;> simp [isDown, Act.moves?, own]

/-- A joypad and the processor stand where a history has led them. -/
structure Leads (history : History) (interrupts : Interrupts) (state : Joypad × Interrupts)
    : Prop where
  held : ∀ key, state.1.isHeld key = history.isDown key
  high : ∀ line, state.1.isHigh line = Bits.bit line.bit history.written
  calls : state.2 = (Interrupts.request .joypad)^[history.strokes] interrupts

theorem Leads.perform {state : Joypad × Interrupts} (leads : earlier.Leads interrupts state)
    (act : Act)
    : Leads (act :: earlier) interrupts (perform act state) := by
  obtain ⟨held, high, calls⟩ := leads
  cases act with
  | press key =>
      refine ⟨fun other => ?_, fun line => ?_, ?_⟩
      · rw [isDown_press, ← held]
        exact isHeld_press _ _ _ _
      · exact (isHigh_press _ _ _ _).trans (high line)
      · rw [strokes, Nat.add_comm, Function.iterate_add_apply, ← calls, ← held]
        exact press_interrupts _ _ _
  | release key =>
      refine ⟨fun other => ?_, high, calls⟩
      rw [isDown_release, ← held]
      exact isHeld_release _ _ _
  | releaseAll => exact ⟨isHeld_releaseAll _, high, calls⟩
  | read => exact ⟨held, high, calls⟩
  | write value =>
      refine ⟨held, fun line => ?_, calls⟩
      cases line <;> rfl

theorem leads_replay (interrupts : Interrupts) (history : History)
    : history.Leads interrupts (history.replay interrupts) := by
  induction history with
  | nil =>
      refine ⟨fun _ => BitVec.getLsbD_zero, fun line => ?_, rfl⟩
      cases line <;> rfl
  | cons act earlier ih => exact ih.perform act

end History

-----------------------------------------------------------------------------------------
-- The register
-----------------------------------------------------------------------------------------

/-- The bits of the register, with the columns in which a key is visible at the bottom. -/
theorem read_bits (joypad : Joypad)
    : (joypad.read.getLsbD 6 = true ∧ joypad.read.getLsbD 7 = true)
        ∧ (∀ line, joypad.read.getLsbD line.bit = joypad.isHigh line)
        ∧ ∀ column < 4, joypad.read.getLsbD column = !joypad.visible.getLsbD column := by
  have search : ∀ directions buttons : Bool, ∀ visible : BitVec 4,
      let shown := Byte.ofInt
        (0xC0 + (16 * directions.toNat + 32 * buttons.toNat : Nat) + (~~~visible).toNat)
      (shown.getLsbD 6 = true ∧ shown.getLsbD 7 = true)
        ∧ (shown.getLsbD 4 = directions ∧ shown.getLsbD 5 = buttons)
        ∧ ∀ column < 4, shown.getLsbD column = !visible.getLsbD column := by
    decide +kernel
  obtain ⟨high, ⟨directions, buttons⟩, low⟩ :=
    search joypad.directionLine joypad.buttonLine joypad.visible
  refine ⟨high, fun line => ?_, low⟩
  cases line with
  | directions => exact directions
  | buttons => exact buttons

theorem getLsbD_visible {column : Nat} (bound : column < 4)
    : joypad.visible.getLsbD column = true
        ↔ ∃ line : Line, joypad.isHigh line = false
          ∧ joypad.held.getLsbD (line.offset + column) = true := by
  have half (high : Bool) (start : Nat)
      : (if high then 0 else joypad.held.extractLsb' start 4).getLsbD column = true
          ↔ high = false ∧ joypad.held.getLsbD (start + column) = true := by
    cases high <;> simp [bound]
  rw [visible, BitVec.getLsbD_or, Bool.or_eq_true, half, half]
  constructor
  · rintro (directions | buttons)
    · exact ⟨.directions, directions⟩
    · exact ⟨.buttons, buttons⟩
  · rintro ⟨line, seen⟩
    cases line with
    | directions => exact .inl seen
    | buttons => exact .inr seen

/-- A key is visible in its column if it is down and its line is low. -/
theorem visible_iff {column : Nat} (bound : column < 4)
    : joypad.visible.getLsbD column = true
        ↔ ∃ key : Key, joypad.isHeld key = true ∧ joypad.isHigh key.line = false
          ∧ key.column = column := by
  rw [getLsbD_visible bound]
  constructor
  · rintro ⟨line, low, down⟩
    have inside : line.offset + column < 8 := by
      cases line <;> simp only [Line.offset] <;> omega
    obtain ⟨key, place⟩ := Key.exists_index inside
    obtain ⟨rfl, here⟩ := (Key.index_eq_iff bound).mp place
    exact ⟨key, by rw [isHeld, place, down], low, here⟩
  · rintro ⟨key, down, low, here⟩
    have place := (Key.index_eq_iff bound).mpr ⟨rfl, here⟩
    exact ⟨key.line, low, by rw [← place]; exact down⟩

/-- All that a joypad does depends on the keys that are down and on the lines. -/
theorem eq_of_isHeld {other : Joypad} (held : ∀ key, joypad.isHeld key = other.isHeld key)
    (high : ∀ line, joypad.isHigh line = other.isHigh line)
    : joypad = other := by
  obtain ⟨directions, buttons, keys⟩ := joypad
  obtain ⟨otherDirections, otherButtons, otherKeys⟩ := other
  have same : keys = otherKeys := by
    refine BitVec.eq_of_getLsbD_eq fun index bound => ?_
    obtain ⟨key, rfl⟩ := Key.exists_index bound
    exact held key
  rw [same, show directions = otherDirections from high .directions,
    show buttons = otherButtons from high .buttons]

-----------------------------------------------------------------------------------------
-- What can be told
-----------------------------------------------------------------------------------------

theorem write_byte (joypad : Joypad) (value : Int)
    : joypad.write (Byte.ofInt value).value = joypad.write value := by
  have bit {index : Nat} (bound : index < 8)
      : Bits.bit index (Byte.ofInt value).value = Bits.bit index value := by
    rw [← Byte.getLsbD_ofInt bound, Byte.ofInt_value, Byte.getLsbD_ofInt bound]
  rw [write, bit (by decide), bit (by decide), write]

/-- An access to the register reaches the joypad, and neither the processor nor another device. -/
structure OnBus (memory : Memory) (interrupts : Interrupts) : Prop where
  shown : (memory.read 0xFF00 interrupts).1 = memory.peripherals.joypad.read
  read : (memory.read 0xFF00 interrupts).2.peripherals = memory.peripherals
  write
    : ∀ value, (memory.write 0xFF00 value interrupts).1 = interrupts
        ∧ (memory.write 0xFF00 value interrupts).2.peripherals
          = { memory.peripherals with joypad := memory.peripherals.joypad.write value }

theorem onBus (memory : Memory) (interrupts : Interrupts) : OnBus memory interrupts where
  shown := rfl
  read := rfl
  write value := by
    refine ⟨rfl, ?_⟩
    rw [← write_byte]
    rfl

namespace History

/-- What has become of a joypad and the processor by a history. -/
structure Told (history : History) (interrupts : Interrupts) (joypad : Joypad) (after : Interrupts)
    : Prop where
  held : ∀ key, joypad.isHeld key = history.isDown key
  top : joypad.read.getLsbD 6 = true ∧ joypad.read.getLsbD 7 = true
  lines : ∀ line : Line, joypad.read.getLsbD line.bit = Bits.bit line.bit history.written
  /-- Zero means that a key of a line is down that is read. -/
  columns
    : ∀ column < 4, joypad.read.getLsbD column = false
        ↔ ∃ key : Key, history.isDown key = true ∧ history.selects key.line = true
          ∧ key.column = column
  /-- It makes no difference in which order the keys went down. -/
  order
    : ∀ (other : History) (before : Interrupts),
        (∀ key, other.isDown key = history.isDown key) →
        (∀ line, other.selects line = history.selects line) →
        (other.replay before).1 = joypad
  /-- The processor is called once for each stroke, and nothing else becomes of its requests. -/
  calls : after = (Interrupts.request .joypad)^[history.strokes] interrupts
  counts
    : ∀ source, after.counts.get source
        = interrupts.counts.get source + if source = .joypad then (history.strokes : Int) else 0
  bus : ∀ memory : Memory, OnBus memory after

/-- All that a joypad does since a reset can be told from the keys and the writes to its register. -/
theorem told_replay (interrupts : Interrupts) (history : History)
    : history.Told interrupts (history.replay interrupts).1 (history.replay interrupts).2 := by
  obtain ⟨held, high, calls⟩ := history.leads_replay interrupts
  obtain ⟨top, lines, low⟩ := (history.replay interrupts).1.read_bits
  exact {
    held
    top
    lines := fun line => (lines line).trans (high line)
    columns := fun column bound => by
      rw [low column bound, Bool.not_eq_false', visible_iff bound]
      simp only [held, high, selects, Bool.not_eq_true']
    order := fun other before down selected => by
      obtain ⟨otherHeld, otherHigh, -⟩ := other.leads_replay before
      refine eq_of_isHeld (fun key => ?_) fun line => ?_
      · rw [otherHeld, down, held]
      · rw [otherHigh, high]
        exact Bool.not_inj (selected line)
    calls
    counts := fun source => by
      rw [calls]
      exact interrupts.iterate_request_counts .joypad source _
    bus := fun memory => onBus memory _ }

/-- Two keys share a column, which stays low while one of them is down. -/
example
    : let history : History :=
        [.release .a, .press .a, .write 0, .press .right, .press .start, .press .a, .press .a]
      (history.replay {}).1.read = 0xC6 ∧ history.strokes = 3 := by
  decide

end History

end Joypad

end Handheld
