import Handheld.Proofs.Memory.Storage

/-! What a register window shows after any accesses to it.
It answers at its own addresses and refuses what lies above them. As many addresses below them are not
refused: each stands for the one of its own that lies higher by the size of the window. Apart from
these, a byte changes by nothing but a write to its own address.
-/

namespace Handheld.Window

variable {size : Nat}

/-- A window as it is laid out. It is as large as it claims to be, and it has been filled. -/
def laid (size : Nat) (name : Text) (start : Int) (fill : Byte) : Window size where
  name := name
  start := start
  fill := fill

/-- What a host can do to a window. -/
inductive Access
  | read (address : Int)
  | write (address value : Int)
  deriving DecidableEq, Repr

/-- Where an access goes. -/
def Access.address : Access → Int
  | .read address | .write address _ => address

/-- What has been done to a window since it was laid out, the latest access first. -/
abbrev History := List Access

/-- What an access leaves. A window that refuses it stays as it was. -/
def follow (access : Access) (window : Window size) : Window size :=
  match access with
  | .read _ => window
  | .write address value => (window.write address value).toOption.getD window

/-- The address lies in front of the window, and by no more than the size of it. -/
def InFront (window : Window size) (address : Int) : Prop :=
  window.start - size ≤ address ∧ address < window.start

instance (window : Window size) (address : Int) : Decidable (window.InFront address) :=
  inferInstanceAs (Decidable (_ ∧ _))

/-- An access to an address goes to the byte that a window has at its own address. -/
def Reaches (size : Nat) (own address : Int) : Prop :=
  address = own ∨ address = own - size

instance (own address : Int) : Decidable (Reaches size own address) :=
  inferInstanceAs (Decidable (_ ∨ _))

namespace History

/-- Where a history leads. -/
def replay (window : Window size) : History → Window size
  | [] => window
  | access :: earlier => follow access (replay window earlier)

/-- What was written last to one of the addresses that are meant. -/
def written? (meant : Int → Prop) [DecidablePred meant] (history : History) : Option Int :=
  history.findSome? fun
    | .write address value => if meant address then some value else none
    | .read _ => none

/-- The byte that is left of what was written, or the one that the window was filled with. -/
def content (fill : Byte) (meant : Int → Prop) [DecidablePred meant] (history : History) : Byte :=
  ((history.written? meant).map Byte.ofInt).getD fill

end History

-----------------------------------------------------------------------------------------
-- Places
-----------------------------------------------------------------------------------------

variable {window changed : Window size} {place : Fin size} {address own value offset : Int}

/-- A place is told by its distance from the front, or from the end by a negative one. -/
theorem place?_eq_some_iff
    : place? size offset = some place ↔ offset = (place : Nat) ∨ offset = (place : Nat) - size := by
  have bound := place.isLt
  by_cases low : offset < 0
  · simp only [place?, if_pos low, Option.dite_none_right_eq_some, Option.some.injEq, Fin.ext_iff,
      exists_prop]
    omega
  · simp only [place?, if_neg low, Option.dite_none_right_eq_some, Option.some.injEq, Fin.ext_iff,
      exists_prop]
    omega

theorem place?_eq_none_iff : place? size offset = none ↔ offset < -size ∨ (size : Int) ≤ offset := by
  by_cases low : offset < 0
  · simp only [place?, if_pos low, dite_eq_right_iff, reduceCtorEq, imp_false]
    omega
  · simp only [place?, if_neg low, dite_eq_right_iff, reduceCtorEq, imp_false]
    omega

theorem reaches_iff
    : place? size (address - window.start) = some place
        ↔ Reaches size (window.start + (place : Nat)) address := by
  rw [place?_eq_some_iff, Reaches]
  omega

/-- The own addresses of a window that is as large as it claims to be are those of its places. -/
theorem contains_iff (honest : window.declared = size)
    : window.contains own = true ↔ ∃ place : Fin size, own = window.start + (place : Nat) := by
  rw [contains, last, honest, decide_eq_true_iff]
  constructor
  · rintro ⟨low, high⟩
    exact ⟨⟨(own - window.start).toNat, by omega⟩, by dsimp only; omega⟩
  · rintro ⟨place, rfl⟩
    have bound := place.isLt
    omega

theorem write_of_reaches (reaches : Reaches size (window.start + (place : Nat)) address)
    : window.write address value = .ok (window.set place (Byte.ofInt value)) := by
  rw [write, reaches_iff.mpr reaches]

theorem get_set (window : Window size) (place other : Fin size) (byte : Byte)
    : (window.set place byte).get other = if place = other then byte else window.get other := by
  rw [get, set, Memory.vector_get_set, get]

/-- A write that is accepted changes the one byte that it reaches. -/
theorem write_eq_ok (written : window.write address value = .ok changed)
    : changed.start = window.start ∧ changed.declared = window.declared
        ∧ ∀ place : Fin size, changed.get place
          = if Reaches size (window.start + (place : Nat)) address then Byte.ofInt value
            else window.get place := by
  rw [write] at written
  cases found : place? size (address - window.start) with
  | none =>
      rw [found] at written
      cases written
  | some target =>
      rw [found] at written
      obtain rfl := Except.ok.inj written
      refine ⟨rfl, rfl, fun place => ?_⟩
      simp only [get_set, ← reaches_iff, found, Option.some.injEq]

-----------------------------------------------------------------------------------------
-- Histories
-----------------------------------------------------------------------------------------

variable {earlier history : History} {start : Int} {fill : Byte}

theorem follow_frame (access : Access) (window : Window size)
    : (follow access window).start = window.start
        ∧ (follow access window).declared = window.declared := by
  cases access with
  | read address => exact ⟨rfl, rfl⟩
  | write address value =>
      rw [follow]
      cases written : window.write address value with
      | error error => exact ⟨rfl, rfl⟩
      | ok changed => exact ⟨(write_eq_ok written).1, (write_eq_ok written).2.1⟩

/-- One access leaves every byte as it was, but for a write the one that it reaches. -/
theorem follow_get (access : Access) (window : Window size) (place : Fin size)
    : (follow access window).get place
        = match access with
          | .read _ => window.get place
          | .write address value =>
              if Reaches size (window.start + (place : Nat)) address then Byte.ofInt value
              else window.get place := by
  cases access with
  | read address => rfl
  | write address value =>
      rw [follow]
      dsimp only
      cases written : window.write address value with
      | ok changed => exact (write_eq_ok written).2.2 place
      | error error =>
          refine (if_neg fun reaches => ?_).symm
          rw [write_of_reaches reaches] at written
          cases written

namespace History

theorem replay_frame (window : Window size) (history : History)
    : (history.replay window).start = window.start
        ∧ (history.replay window).declared = window.declared := by
  induction history with
  | nil => exact ⟨rfl, rfl⟩
  | cons access earlier ih =>
      obtain ⟨start, declared⟩ := follow_frame access (replay window earlier)
      exact ⟨start.trans ih.1, declared.trans ih.2⟩

theorem content_write (meant : Int → Prop) [DecidablePred meant] (address value : Int)
    : content fill meant (.write address value :: earlier)
        = if meant address then Byte.ofInt value else content fill meant earlier := by
  rw [content, written?, List.findSome?_cons]
  split <;> split <;> simp_all [content, written?]

/-- Every place holds what was written last to one of the two addresses that reach it, by induction
on the history.
-/
theorem replay_get (name : Text) (start : Int) (fill : Byte) (history : History) (place : Fin size)
    : (history.replay (laid size name start fill)).get place
        = history.content fill (Reaches size (start + (place : Nat))) := by
  induction history with
  | nil => exact Vector.getElem_replicate place.isLt
  | cons access earlier ih =>
      rw [replay, follow_get, ih, (replay_frame _ earlier).1]
      cases access with
      | read address => rfl
      | write address value => exact (content_write _ address value).symm

end History

-----------------------------------------------------------------------------------------
-- What is seen
-----------------------------------------------------------------------------------------

/-- What a window shows after a history, and what further accesses to it come to. -/
structure Seen (start : Int) (fill : Byte) (history : History) (window : Window size) : Prop where
  /-- An address that is not its own is refused, unless it lies in front by no more than the size. -/
  refuses
    : ∀ address, window.contains address = false →
        (window.read address = .error .outsideWindow ↔ ¬ window.InFront address)
        ∧ ∀ value, window.write address value = .error .outsideWindow ↔ ¬ window.InFront address
  /-- Its own addresses are never refused. -/
  shows
    : ∀ own, window.contains own = true →
        window.read own = .ok (history.content fill (Reaches size own))
        ∧ ∀ value, ∃ changed, window.write own value = .ok changed
  /-- A write changes what one own address shows and nothing else. -/
  changes
    : ∀ own address value changed, window.contains own = true →
        window.write address value = .ok changed →
        changed.read own
          = if Reaches size own address then .ok (Byte.ofInt value) else window.read own
  /-- As long as nobody goes in front of the window, the last write to the address itself counts. -/
  orderly
    : (∀ access ∈ history, ¬ window.InFront access.address) →
        ∀ own, window.contains own = true →
          window.read own = .ok (history.content fill (· = own))
  ends : window.start = start ∧ window.last = start + size - 1

theorem refuses_iff (window : Window size) (address value : Int)
    (foreign : window.contains address = false) (honest : window.declared = size)
    : (window.read address = .error .outsideWindow ↔ ¬ window.InFront address)
        ∧ (window.write address value = .error .outsideWindow ↔ ¬ window.InFront address) := by
  have outside : ¬ (window.start ≤ address ∧ address ≤ window.last) :=
    of_decide_eq_false foreign
  have none_iff : place? size (address - window.start) = none ↔ ¬ window.InFront address := by
    rw [last, honest] at outside
    rw [place?_eq_none_iff, InFront]
    omega
  rw [← none_iff, read, write]
  cases place? size (address - window.start) <;> simp

/-- An address in front of the window reaches no own address that has not been gone to in front. -/
theorem History.content_orderly {window : Window size}
    (orderly : ∀ access ∈ history, ¬ window.InFront access.address)
    (inside : window.start ≤ own ∧ own < window.start + size)
    : history.content fill (Reaches size own) = history.content fill (· = own) := by
  induction history with
  | nil => rfl
  | cons access earlier ih =>
      obtain ⟨behind, others⟩ := List.forall_mem_cons.mp orderly
      have ih := ih others
      cases access with
      | read address => exact ih
      | write address value =>
          have same : Reaches size own address ↔ address = own := by
            rw [Access.address, InFront] at behind
            rw [Reaches]
            omega
          simp only [content_write, same, ih]

/-- All that a window shows can be told from the accesses to it. An address that is not its own is
refused only beyond its last one and more than its size in front of its first one; any other address
in front stands for an own one.
-/
theorem replay_seen (size : Nat) (name : Text) (start : Int) (fill : Byte) (history : History)
    : Seen start fill history (history.replay (laid size name start fill)) := by
  have frame := History.replay_frame (laid size name start fill) history
  have held (place : Fin size) := History.replay_get name start fill history place
  generalize history.replay (laid size name start fill) = window at frame held ⊢
  obtain ⟨rfl, honest⟩ : window.start = start ∧ window.declared = size := frame
  have shown : ∀ own, window.contains own = true →
      window.read own = .ok (history.content fill (Reaches size own)) := by
    intro own inside
    obtain ⟨place, rfl⟩ := (contains_iff honest).mp inside
    rw [read_eq rfl, held]
  refine ⟨?refuses, ?shows, ?changes, ?orderly, rfl, by rw [last, honest]⟩
  case refuses =>
    intro address foreign
    exact ⟨(refuses_iff window address 0 foreign honest).1,
      fun value => (refuses_iff window address value foreign honest).2⟩
  case shows =>
    intro own inside
    refine ⟨shown own inside, fun value => ?_⟩
    obtain ⟨place, rfl⟩ := (contains_iff honest).mp inside
    exact ⟨_, write_of_reaches (.inl rfl)⟩
  case changes =>
    intro own address value changed inside written
    obtain ⟨place, rfl⟩ := (contains_iff honest).mp inside
    obtain ⟨start, _, bytes⟩ := write_eq_ok written
    have own : changed.read (window.start + (place : Nat)) = .ok (changed.get place) :=
      read_eq (by rw [start])
    rw [own, read_eq rfl, bytes place]
    exact apply_ite Except.ok _ _ _
  case orderly =>
    intro orderly own inside
    have bounds : window.start ≤ own ∧ own ≤ window.last := of_decide_eq_true inside
    rw [last, honest] at bounds
    rw [shown own inside, History.content_orderly orderly (by omega)]

/-- The last of four bytes can be told from the front and from the end; one more below is refused. -/
theorem replay_seen_front
    : let history : History := [.write 0x7FFC 0x107, .read 0x8003, .write 0x7FFB 1, .write 0x8000 2]
      let window := history.replay (laid 4 "vram" 0x8000 0xAA)
      window.read 0x8000 = .ok 0x07 ∧ window.read 0x8003 = .ok 0xAA
        ∧ window.read 0x7FFB = .error .outsideWindow := by
  intro history window
  have seen := replay_seen 4 "vram" 0x8000 0xAA history
  exact ⟨(seen.shows 0x8000 (by decide)).1, (seen.shows 0x8003 (by decide)).1,
    (seen.refuses 0x7FFB (by decide)).1.mpr (by decide)⟩

/-- A window does not contain the address in front of it, but a write there is accepted and changes
its last byte.
-/
theorem write_in_front
    : let window := laid 4 "vram" 0x8000 0
      window.contains 0x7FFF = false ∧ window.contains 0x8003 = true
        ∧ window.read 0x8003 = .ok 0
        ∧ ∃ changed, window.write 0x7FFF 7 = .ok changed ∧ changed.read 0x8003 = .ok 7 :=
  ⟨rfl, rfl, rfl, _, rfl, rfl⟩

end Handheld.Window
