import Handheld.Proofs.Cpu.Mirroring
import Handheld.Proofs.Cpu.Monitoring

/-! What a step has done, told by its accesses.
The monitor takes a note of every access. What relates the notes to the bus and is kept by each
access is kept by a step.
-/

namespace Handheld.Cpu

variable {μ : Type} {bus : Bus μ} {P : Interrupts × μ → List Access → Prop}

/-- What the monitor has written down stays. -/
theorem Bus.monitored_traps (bus : Bus μ) (P : Access → Prop)
    : bus.monitored.Traps fun around => ∃ access ∈ around.2.accesses, P access where
  setMaster seen _ := seen
  acknowledge seen _ := seen
  read := by
    rintro _ ⟨access, seen, holds⟩ _
    exact ⟨access, List.mem_cons_of_mem _ seen, holds⟩
  write := by
    rintro _ ⟨access, seen, holds⟩ _ _
    exact ⟨access, List.mem_cons_of_mem _ seen, holds⟩

/-- What relates the surroundings to the accesses so far, the latest first, is kept by all that
happens to them. Acknowledgements are left open here as well.
-/
structure Bus.Records (P : Interrupts × μ → List Access → Prop) (bus : Bus μ) : Prop where
  setMaster
    : ∀ {interrupts memory notes}, P (interrupts, memory) notes →
        ∀ enabled, P (interrupts.setMaster enabled, memory) notes
  read
    : ∀ {interrupts memory notes}, P (interrupts, memory) notes →
        ∀ address, P (bus.read address interrupts memory).2 (.read address :: notes)
  write
    : ∀ {interrupts memory notes}, P (interrupts, memory) notes →
        ∀ address value,
          P (bus.write address value interrupts memory) (.write address value :: notes)

theorem Bus.Records.mirrors (records : bus.Records P)
    : bus.monitored.Mirrors
        (fun seen plain => Monitored.Like seen plain ∧ P plain seen.2.accesses) bus where
  master related := congrArg Interrupts.master related.1.1
  pending related := congrArg Interrupts.pending related.1.1
  setMaster related enabled :=
    ⟨⟨congrArg (·.setMaster enabled) related.1.1, related.1.2⟩,
      records.setMaster related.2 enabled⟩
  answer := by
    rintro ⟨_, _⟩ ⟨_, _⟩ ⟨⟨rfl, rfl⟩, _⟩ _
    rfl
  read := by
    rintro ⟨_, _⟩ ⟨_, _⟩ ⟨⟨rfl, rfl⟩, holds⟩ address
    exact ⟨⟨rfl, rfl⟩, records.read holds address⟩
  write := by
    rintro ⟨_, _⟩ ⟨_, _⟩ ⟨⟨rfl, rfl⟩, holds⟩ address value
    exact ⟨⟨rfl, rfl⟩, records.write holds address value⟩

/-- A step keeps it, as far as it outlives the acknowledgement of the source that is served. -/
theorem Bus.Records.step (records : bus.Records P) (core : Core μ)
    (acknowledged
      : ∀ source, core.interrupted = true → core.interrupts.highest? = some source →
        ∀ {interrupts memory notes}, P (interrupts, memory) notes →
          P (interrupts.acknowledge source, memory) notes)
    (start : P (core.interrupts, core.memory) [])
    : let after := ((Core.step bus).run core).2
      P (after.interrupts, after.memory)
        ((Core.step bus.monitored).run core.monitored).2.memory.accesses := by
  have mirrored : core.monitored.Mirrored
      (fun seen plain => Monitored.Like seen plain ∧ P plain seen.2.accesses) core :=
    ⟨rfl, ⟨rfl, rfl⟩, start⟩
  obtain ⟨_, behind⟩ := mirrored.step records.mirrors fun source called first _ _ related =>
    ⟨⟨congrArg (·.acknowledge source) related.1.1, related.1.2⟩,
      acknowledged source called first related.2⟩
  exact behind.around.2

end Handheld.Cpu
