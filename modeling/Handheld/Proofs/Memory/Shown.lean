import Handheld.Proofs.Cpu.Chaining
import Handheld.Proofs.Memory.Signals

/-! Memory that is as good as a plain one.
Program memory, work memory and high memory read like the cells of a plain memory, and what is
written to the latter two is stored in both alike.
-/

namespace Handheld.Memory

open Cpu (FlatRam)

-----------------------------------------------------------------------------------------
-- Addresses to keep to
-----------------------------------------------------------------------------------------

/-- First and last addresses of work memory and high memory. -/
def writable : List (Nat × Nat) := [(0xC000, 0xDFFF), (0xFF80, 0xFFFE)]

/-- Program memory comes on top of what can be written. -/
def readable : List (Nat × Nat) := (0x0000, 0x7FFF) :: writable

theorem among_writable_iff {address : Nat}
    : Among writable address
        ↔ (0xC000 ≤ address ∧ address ≤ 0xDFFF) ∨ (0xFF80 ≤ address ∧ address ≤ 0xFFFE) := by
  simp [Among, writable]

theorem among_readable_iff {address : Nat}
    : Among readable address ↔ address < 0x8000 ∨ Among writable address := by
  have first : (0 ≤ address ∧ address ≤ 0x7FFF) ↔ address < 0x8000 := by omega
  simp only [Among, readable, List.mem_cons, exists_eq_or_imp, first]

theorem ofInt_readable {address : Nat} (readable : Among readable address)
    : (Address.ofInt address).val = address := by
  have bounds := among_readable_iff.mp readable
  rw [among_writable_iff] at bounds
  have number := Address.val_ofInt address
  omega

variable {address : Address}

/-- What can be written is stored where it is written. -/
theorem place_writable (writable : Among writable address)
    : (place address).cell? = some address.val := by
  have bounds := among_writable_iff.mp writable
  rw [place_cell?, cellAt?, direct_eq (by omega)]
  exact if_pos (among_storage_iff.mpr (by omega))

theorem place_readable (readable : Among readable address)
    : (∃ offset, place address = .rom offset) ∨ (place address).cell? = some address.val := by
  rcases among_readable_iff.mp readable with rom | writable
  · exact .inl ⟨⟨address, rom⟩, by rw [place, dif_pos rom]⟩
  · exact .inr (place_writable writable)

theorem set_cartridge {p : Place} {cell : Nat} (stored : p.cell? = some cell) (m : Memory)
    (value : Byte) (interrupts : Interrupts)
    : (m.set p value interrupts).2.cartridge = m.cartridge := by
  cases p with
  | vram | wram | oam | audio | video | hram => rfl
  | _ => cases stored

/-- The readable bytes depend on program memory and on what is stored, and on nothing else. -/
theorem get_readable (readable : Among readable address) {m n : Memory}
    (cartridge : m.cartridge = n.cartridge) (same : m.SameStorage n) (before after : Interrupts)
    : m.get before (place address) = n.get after (place address) := by
  rcases place_readable readable with ⟨offset, rom⟩ | stored
  · rw [rom]
    exact congrArg (Cartridge.readRom · offset) cartridge
  · exact same.get stored before after

-----------------------------------------------------------------------------------------
-- A plain memory with the same content
-----------------------------------------------------------------------------------------

/-- A plain memory holds the bytes that can be read. -/
def Shows (m : Memory) (ram : FlatRam) : Prop :=
  ∀ address : Int, Among readable (Address.ofInt address) →
    ∀ interrupts, m.peek interrupts address = ram.get address

variable {m n : Memory} {ram : FlatRam}

theorem Shows.of_same (shows : m.Shows ram) (cartridge : n.cartridge = m.cartridge)
    (same : n.SameStorage m)
    : n.Shows ram := by
  intro address readable interrupts
  rw [← shows address readable interrupts]
  exact get_readable readable cartridge same _ _

/-- What is on the bus of a console settles what its memory shows. -/
theorem Shows.of_read {interrupts : Interrupts}
    (content
      : ∀ address : Nat, Among readable address →
          (m.read address interrupts).1 = ram.get address)
    : m.Shows ram := by
  intro address readable other
  have here : Address.ofInt (Address.ofInt address : Nat) = Address.ofInt address :=
    Fin.ext (ofInt_readable readable)
  have found := content (Address.ofInt address) readable
  rw [Memory.read, peek, FlatRam.get, here] at found
  exact (get_readable readable rfl ⟨rfl, rfl, rfl, rfl, rfl, rfl⟩ _ _).trans found

/-- A byte that is written to work memory or high memory on both sides is shown. -/
theorem Shows.write (shows : m.Shows ram) {address : Int}
    (writable : Among writable (Address.ofInt address)) (value : Int) (interrupts : Interrupts)
    : (m.write address value interrupts).2.Shows (ram.set address (Byte.ofInt value)) := by
  intro other readable after
  have target := place_writable writable
  rw [FlatRam.get_set, peek, Memory.write]
  rcases place_readable readable with ⟨offset, rom⟩ | stored
  · have apart : Address.ofInt address ≠ Address.ofInt other := by
      intro same
      rw [same, rom] at target
      cases target
    have kept := shows other readable after
    rw [if_neg apart, ← kept, peek, rom]
    exact congrArg (Cartridge.readRom · offset) (set_cartridge target _ _ _)
  · have same : place (Address.ofInt address) = place (Address.ofInt other)
        ↔ Address.ofInt address = Address.ofInt other := by
      refine ⟨fun same => ?_, congrArg place⟩
      rw [same, stored] at target
      exact (Fin.ext (Option.some.inj target)).symm
    have kept := shows other readable interrupts
    rw [get_set stored, ← kept]
    simp only [same]
    split
    · rfl
    · exact SameStorage.get ⟨rfl, rfl, rfl, rfl, rfl, rfl⟩ stored _ _

/-- Every cell of work memory and high memory is shown. -/
theorem Shows.stored (shows : m.Shows ram) {p : Place} {cell : Nat} (own : p.cell? = some cell)
    (inside : Among writable cell) (interrupts : Interrupts)
    : m.get interrupts p = ram.get cell := by
  have readable := among_readable_iff.mpr (.inr inside)
  have number := ofInt_readable readable
  have here : Among writable (Address.ofInt cell) := number.symm ▸ inside
  have found : place (Address.ofInt cell) = p :=
    Place.cell?_injective ((place_writable here).trans (congrArg some number)) own
  have shown := shows cell (number.symm ▸ readable) interrupts
  rwa [peek, found] at shown

theorem Shows.wram (shows : m.Shows ram) (offset : Fin 0x2000)
    : m.wram.get offset = ram.get (0xC000 + offset : Nat) := by
  have bound := offset.isLt
  exact shows.stored (p := .wram offset) rfl (among_writable_iff.mpr (by omega)) {}

theorem Shows.hram (shows : m.Shows ram) (offset : Fin 0x7F)
    : m.hram.get offset = ram.get (0xFF80 + offset : Nat) := by
  have bound := offset.isLt
  exact shows.stored (p := .hram offset) rfl (among_writable_iff.mpr (by omega)) {}

theorem offDevices_of_writable {address : Int} (writable : Among writable (Address.ofInt address))
    : OffDevices (address % 0x10000) := by
  have bounds := among_writable_iff.mp writable
  have number := Address.val_ofInt address
  rw [OffDevices, ← number]
  omega

end Handheld.Memory
