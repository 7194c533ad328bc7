import Handheld.Cpu.FlatRam
import Handheld.Proofs.Cpu.Range
import Handheld.Proofs.Memory.Storage

/-! What a plain memory holds behind a write.
Addresses are taken modulo 65536, so the cells below the stack pointer may lie on both ends of the
memory.
-/

namespace Handheld

/-- Numbers denote the same address just if they are the same modulo 65536. -/
theorem Address.ofInt_eq_iff {number other : Int}
    : Address.ofInt number = Address.ofInt other ↔ number % 65536 = other % 65536 := by
  rw [Fin.ext_iff, ← Int.ofNat_inj, Address.val_ofInt, Address.val_ofInt]

theorem Byte.ofInt_emod (value : Int) : Byte.ofInt (value % 256) = Byte.ofInt value := by
  refine Byte.value_injective ?_
  rw [Byte.value, Byte.value, ← Byte.toNat_ofInt, ← Byte.toNat_ofInt, Int.emod_emod]

namespace Cpu.FlatRam

theorem get_set (ram : FlatRam) (address other : Int) (value : Byte)
    : (ram.set address value).get other
      = if Address.ofInt address = Address.ofInt other then value else ram.get other :=
  Memory.vector_get_set ram _ _ value

theorem get_congr (ram : FlatRam) {address other : Int} (same : address % 65536 = other % 65536)
    : ram.get address = ram.get other := by
  rw [get, Address.ofInt_eq_iff.mpr same, get]

theorem get_emod (ram : FlatRam) (address : Int) : ram.get (address % 65536) = ram.get address :=
  ram.get_congr (Int.emod_emod _ _)

theorem set_congr (ram : FlatRam) {address other : Int} (same : address % 65536 = other % 65536)
    (value : Byte)
    : ram.set address value = ram.set other value := by
  simp only [set, Address.ofInt_eq_iff.mpr same]

-----------------------------------------------------------------------------------------
-- Numbers of two bytes
-----------------------------------------------------------------------------------------

/-- An address is among so many that lie just below another. -/
def Below (top : Int) (count : Nat) (address : Int) : Prop :=
  (top - 1 - address) % 65536 < count

instance (top : Int) (count : Nat) (address : Int) : Decidable (Below top count address) :=
  inferInstanceAs (Decidable (_ < _))

/-- The number in the cell at an address and in the one above it, which is the high byte. -/
def word (ram : FlatRam) (address : Int) : Int :=
  (ram.get (address + 1)).value * 256 + (ram.get address).value

theorem word_emod (ram : FlatRam) (address : Int) : ram.word (address % 65536) = ram.word address := by
  rw [word, word, get_emod, ram.get_congr (Int.emod_add_emod address 65536 1)]

/-- A memory with a number in the two cells below an address. -/
def stack (ram : FlatRam) (top value : Int) : FlatRam :=
  (ram.set (top - 1) (Byte.ofInt (value / 256))).set (top - 2) (Byte.ofInt value)

variable {top address : Int}

/-- Nothing but the two cells changes. -/
theorem get_stack_off (ram : FlatRam) (off : ¬Below top 2 address) (value : Int)
    : (ram.stack top value).get address = ram.get address := by
  rw [Below] at off
  rw [stack, get_set, if_neg, get_set, if_neg]
  all_goals
    rw [Address.ofInt_eq_iff]
    omega

/-- Two cells hold what can be told of a number in sixteen bits. -/
theorem word_stack (ram : FlatRam) (top value : Int)
    : (ram.stack top value).word (top - 2) = value % 65536 := by
  have low : (ram.stack top value).get (top - 2) = Byte.ofInt value := by
    rw [stack, get_set, if_pos rfl]
  have high : (ram.stack top value).get (top - 2 + 1) = Byte.ofInt (value / 256) := by
    have apart : Address.ofInt (top - 2) ≠ Address.ofInt (top - 2 + 1) := by
      rw [ne_eq, Address.ofInt_eq_iff]
      omega
    rw [stack, get_set, if_neg apart, get_set, if_pos]
    exact Address.ofInt_eq_iff.mpr (by omega)
  rw [word, low, high, Byte.value, Byte.value, ← Byte.toNat_ofInt, ← Byte.toNat_ofInt]
  omega

end Cpu.FlatRam

end Handheld
