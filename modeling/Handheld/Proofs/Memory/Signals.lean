import Handheld.Proofs.Memory.Routing
import Mathlib.Logic.Function.Iterate

/-! How the devices call the processor.
The timer raises its own request and no other, once for every overflow. Of all writes only those to
the serial link, the request register and the enable register reach the interrupt controller.
-/

namespace Handheld

-----------------------------------------------------------------------------------------
-- The timer
-----------------------------------------------------------------------------------------

/-- Requests change neither the master switch nor what is enabled. -/
theorem Interrupts.iterate_request (interrupts : Interrupts) (source : Source) (count : Nat)
    : ((request source)^[count] interrupts).master = interrupts.master
        ∧ ((request source)^[count] interrupts).enable = interrupts.enable := by
  induction count generalizing interrupts with
  | zero => exact ⟨rfl, rfl⟩
  | succ count ih => exact ih (interrupts.request source)

theorem Tally.get_bump (tally : Tally) (source other : Source)
    : (tally.bump source).get other = tally.get other + if other = source then 1 else 0 := by
  cases source <;> cases other <;> simp [bump, set, get]

theorem Interrupts.iterate_request_counts (interrupts : Interrupts) (source other : Source)
    (count : Nat)
    : ((request source)^[count] interrupts).counts.get other
      = interrupts.counts.get other + if other = source then (count : Int) else 0 := by
  induction count generalizing interrupts with
  | zero => simp
  | succ count hypothesis =>
      have once : (interrupts.request source).counts.get other
          = interrupts.counts.get other + if other = source then 1 else 0 :=
        interrupts.counts.get_bump source other
      rw [Function.iterate_succ_apply, hypothesis, once]
      split
      · push_cast
        omega
      · simp

/-- A request is up behind some requests of its source, or as before them if there are none. -/
theorem Interrupts.iterate_request_up (interrupts : Interrupts) (source : Source) (count : Nat)
    : ((request source)^[count] interrupts).requests.getLsbD source.priority
      = (interrupts.requests.getLsbD source.priority || decide (0 < count)) := by
  induction count generalizing interrupts with
  | zero => simp
  | succ count hypothesis =>
      have own : source.mask.getLsbD source.priority = true := by cases source <;> rfl
      rw [Function.iterate_succ_apply, hypothesis, request, BitVec.getLsbD_or, own]
      simp

namespace Timer

/-- As many requests have been raised as overflows counted. -/
def Raised (count : Nat) (before after : Timer × Interrupts) : Prop :=
  after.2 = (Interrupts.request .timer)^[count] before.2
    ∧ after.1.overflows = before.1.overflows + count

theorem Raised.trans {first later : Nat} {s t u : Timer × Interrupts} (front : Raised first s t)
    (back : Raised later t u)
    : Raised (first + later) s u := by
  constructor
  · rw [back.1, front.1, ← Function.iterate_add_apply, Nat.add_comm]
  · rw [back.2, front.2]
    omega

theorem increment_raised (state : Timer × Interrupts)
    : Raised (if state.1.tima = 0xFF then 1 else 0) state (increment state) := by
  obtain ⟨timer, interrupts⟩ := state
  rw [increment]
  split
  case isTrue overflow => exact ⟨rfl, rfl⟩
  case isFalse => exact ⟨rfl, (Int.add_zero _).symm⟩

theorem increments_raised (number : Nat) (state : Timer × Interrupts)
    : ∃ count, Raised count state (increments number state) := by
  induction number generalizing state with
  | zero => exact ⟨0, rfl, (Int.add_zero _).symm⟩
  | succ number ih =>
      obtain ⟨later, raised⟩ := ih (increment state)
      exact ⟨_, (increment_raised state).trans raised⟩

/-- Passing cycles raise requests of the timer, one for each overflow. -/
theorem tick_raised (cycles : Int) (timer : Timer) (interrupts : Interrupts)
    : ∃ count, Raised count (timer, interrupts) (timer.tick cycles interrupts) := by
  rw [tick]
  dsimp only
  split
  · exact increments_raised _ _
  · exact ⟨0, rfl, (Int.add_zero _).symm⟩

/-- Passing cycles leave the master switch and the enable register alone. -/
theorem tick_switches (cycles : Int) (timer : Timer) (interrupts : Interrupts)
    : (timer.tick cycles interrupts).2.master = interrupts.master
        ∧ (timer.tick cycles interrupts).2.enable = interrupts.enable := by
  obtain ⟨count, requested, _⟩ := tick_raised cycles timer interrupts
  rw [requested]
  exact interrupts.iterate_request .timer count

end Timer

-----------------------------------------------------------------------------------------
-- Writes
-----------------------------------------------------------------------------------------

namespace Memory

/-- An address that is neither in the device area nor that of the enable register. -/
def OffDevices (address : Int) : Prop :=
  (address < 0xFF00 ∨ 0xFF7F < address) ∧ address ≠ 0xFFFF

/-- A place without a device behind it. -/
def Place.IsPlain : Place → Prop
  | .rom _ | .vram _ | .cartridgeRam _ | .wram _ | .oam _ | .deadArea | .vacant | .hram _ => True
  | _ => False

theorem Place.IsPlain.set {place : Place} (plain : place.IsPlain) (m : Memory) (value : Byte)
    (interrupts : Interrupts)
    : (m.set place value interrupts).1 = interrupts := by
  cases place with
  | joypad | serial | timer | interruptRequests | audio | video | interruptEnable =>
      exact plain.elim
  | _ => rfl

theorem place_isPlain {address : Address} (off : OffDevices address.val)
    : (place address).IsPlain := by
  obtain ⟨range, other⟩ := off
  rw [place]
  split
  case isTrue rom => trivial
  split
  case isTrue vram => trivial
  split
  case isTrue cartridgeRam => trivial
  split
  case isTrue wram => trivial
  split
  case isTrue echo => trivial
  split
  case isTrue oam => trivial
  split
  case isTrue unusable => trivial
  split
  case isTrue device => omega
  split
  case isTrue hram => trivial
  case isFalse enable => omega

/-- Off the devices, a write does not reach the interrupt controller. -/
theorem write_offDevices (m : Memory) {address : Int} (off : OffDevices (address % 0x10000))
    (value : Int) (interrupts : Interrupts)
    : (m.write address value interrupts).1 = interrupts := by
  rw [← Address.val_ofInt] at off
  exact (place_isPlain off).set _ _ interrupts

/-- A register of a device is at one address if it is at one address of the device area. -/
theorem address_of_register {address : Address} {p : Place} {home : Nat} (here : place address = p)
    (device : ¬p.IsPlain) (other : p ≠ .interruptEnable)
    (only : ∀ offset : Fin 0x80, devicePlace (0xFF00 + offset) = p → 0xFF00 + offset.val = home)
    : address.val = home := by
  by_cases inside : 0xFF00 ≤ address.val ∧ address.val < 0xFF80
  · have same : 0xFF00 + (address.val - 0xFF00) = address := by omega
    have listed := only ⟨address - 0xFF00, by omega⟩
    rw [place_device inside.1 inside.2] at here
    simp only [same] at listed
    exact listed here
  by_cases last : address.val = 0xFFFF
  · have enable : place 0xFFFF = .interruptEnable := rfl
    rw [show address = 0xFFFF from Fin.ext last, enable] at here
    exact absurd here.symm other
  · have plain : (place address).IsPlain := place_isPlain ⟨by omega, by omega⟩
    exact absurd (here ▸ plain) device

theorem place_requests {address : Address} (here : place address = .interruptRequests)
    : address.val = 0xFF0F :=
  address_of_register here id nofun (by decide)

theorem place_transfer {address : Address} (here : place address = .serial .control)
    : address.val = 0xFF02 :=
  address_of_register here id nofun (by decide)

theorem place_divider {address : Address} (here : place address = .timer .div)
    : address.val = 0xFF04 :=
  address_of_register here id nofun (by decide)

end Memory

end Handheld
