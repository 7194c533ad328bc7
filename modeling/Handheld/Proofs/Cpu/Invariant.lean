import Handheld.Proofs.Cpu.Congruence

/-! What holds around a processor on every step.
A step makes no access outside the address space, so an invariant of the surroundings has to survive
only accesses within it, besides what the processor does to the interrupt controller itself.
-/

namespace Handheld.Cpu

variable {μ : Type} {P : Interrupts × μ → Prop} {bus : Bus μ}

/-- A bus whose accesses within the address space keep an invariant of everything around the
processor, which the processor does not break by its own hand either.
-/
structure Bus.Keeps (P : Interrupts × μ → Prop) (bus : Bus μ) : Prop where
  setMaster : ∀ {s}, P s → ∀ enabled, P (s.1.setMaster enabled, s.2)
  acknowledge : ∀ {s}, P s → ∀ source, P (s.1.acknowledge source, s.2)
  read : ∀ {s}, P s → ∀ address : Word, P (bus.read address.toNat s.1 s.2).2
  write
    : ∀ {s}, P s → ∀ (address : Word) (value : Byte),
        P (bus.write address.toNat value.toNat s.1 s.2)

/-- Such a bus answers like itself in equal surroundings. -/
theorem Bus.Keeps.congruent (keeps : bus.Keeps P) : bus.Congruent (fun s t => s = t ∧ P s) bus where
  master := by
    rintro s _ ⟨rfl, _⟩
    rfl
  pending := by
    rintro s _ ⟨rfl, _⟩
    rfl
  setMaster := by
    rintro s _ ⟨rfl, holds⟩ enabled
    exact ⟨rfl, keeps.setMaster holds enabled⟩
  acknowledge := by
    rintro s _ ⟨rfl, holds⟩ source
    exact ⟨rfl, keeps.acknowledge holds source⟩
  answer := by
    rintro s _ ⟨rfl, _⟩ address
    rfl
  read := by
    rintro s _ ⟨rfl, holds⟩ address
    exact ⟨rfl, keeps.read holds address⟩
  write := by
    rintro s _ ⟨rfl, holds⟩ address value
    exact ⟨rfl, keeps.write holds address value⟩

/-- The registers are in range, and an invariant holds of everything around the processor. -/
structure Core.Within (P : Interrupts × μ → Prop) (core : Core μ) : Prop where
  inRange : core.cpu.registers.InRange
  around : P (core.interrupts, core.memory)

/-- No step breaks what the bus keeps, or brings a register out of range. Witness: the processor is
put beside itself, on a bus that answers like itself.
-/
theorem Core.Within.step (keeps : bus.Keeps P) {core : Core μ} (within : Core.Within P core)
    : Core.Within P ((Core.step bus).run core).2 := by
  have start : Core.Alike (fun s t => s = t ∧ P s) core.forgotten core.forgotten :=
    { registers := Registers.same_iff.mpr ⟨within.inRange, rfl⟩, halted := rfl, stopped := rfl
      haltBug := rfl, eiPending := rfl, instructionCount := rfl, lastInstruction := rfl
      lastInterrupt := rfl, around := ⟨rfl, within.around⟩ }
  obtain ⟨_, alike⟩ := start.step keeps.congruent
  exact ⟨(Registers.same_iff.mp alike.registers).1, alike.around.2⟩

end Handheld.Cpu
