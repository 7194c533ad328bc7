import Handheld.Cpu.Snapshot
import Handheld.Proofs.Cpu.Invariant

/-! What a processor hands to its bus, and what it keeps in its registers.
A monitor writes down every access. It is no hindrance to the processor, which stays in range and
within the address space whatever the bus answers.
-/

namespace Handheld.Cpu

variable {μ : Type}

-----------------------------------------------------------------------------------------
-- The monitor
-----------------------------------------------------------------------------------------

/-- An access to a bus, with all numbers as they were handed over. -/
inductive Access
  | read (address : Int)
  | write (address value : Int)
  deriving DecidableEq, Repr

/-- The access is within the address space, and writes no more than a byte. -/
def Access.InRange : Access → Prop
  | .read address => IsWord address
  | .write address value => IsWord address ∧ IsByte value

/-- A memory with a list of all accesses to it, the latest first. -/
structure Monitored (μ : Type) where
  memory : μ
  accesses : List Access := []

/-- The bus with a monitor on it, which writes down an access before the bus sees it. -/
def Bus.monitored (bus : Bus μ) : Bus (Monitored μ) where
  read address interrupts monitored :=
    let (value, interrupts, memory) := bus.read address interrupts monitored.memory
    (value, interrupts, { memory, accesses := .read address :: monitored.accesses })
  write address value interrupts monitored :=
    let (interrupts, memory) := bus.write address value interrupts monitored.memory
    (interrupts, { memory, accesses := .write address value :: monitored.accesses })

/-- The processor before the monitor has seen anything. -/
def Core.monitored (core : Core μ) : Core (Monitored μ) :=
  { core with memory := { memory := core.memory } }

/-- Every access so far was in range. -/
def Monitored.InRange (around : Interrupts × Monitored μ) : Prop :=
  ∀ access ∈ around.2.accesses, access.InRange

/-- The monitor has seen no access out of range unless it was made out of range. -/
theorem Bus.monitored_keeps (bus : Bus μ) : bus.monitored.Keeps Monitored.InRange where
  setMaster holds _ := holds
  acknowledge holds _ := holds
  read holds address := by
    have bound := address.isLt
    exact List.forall_mem_cons.mpr ⟨⟨by omega, by omega⟩, holds⟩
  write holds address value := by
    have bound := address.isLt
    have small := value.isLt
    exact List.forall_mem_cons.mpr ⟨⟨⟨by omega, by omega⟩, by omega, by omega⟩, holds⟩

/-- Apart from what the monitor has written down, the surroundings are the same. -/
def Monitored.Like (seen : Interrupts × Monitored μ) (plain : Interrupts × μ) : Prop :=
  seen.1 = plain.1 ∧ seen.2.memory = plain.2

/-- A monitor does not show in what the bus answers. -/
theorem Bus.monitored_congruent (bus : Bus μ) : Bus.Congruent Monitored.Like bus.monitored bus where
  master := by
    rintro ⟨_, _⟩ ⟨_, _⟩ ⟨rfl, _⟩
    rfl
  pending := by
    rintro ⟨_, _⟩ ⟨_, _⟩ ⟨rfl, _⟩
    rfl
  setMaster := by
    rintro ⟨_, _⟩ ⟨_, _⟩ ⟨rfl, rfl⟩ _
    exact ⟨rfl, rfl⟩
  acknowledge := by
    rintro ⟨_, _⟩ ⟨_, _⟩ ⟨rfl, rfl⟩ _
    exact ⟨rfl, rfl⟩
  answer := by
    rintro ⟨_, _⟩ ⟨_, _⟩ ⟨rfl, rfl⟩ _
    rfl
  read := by
    rintro ⟨_, _⟩ ⟨_, _⟩ ⟨rfl, rfl⟩ _
    exact ⟨rfl, rfl⟩
  write := by
    rintro ⟨_, _⟩ ⟨_, _⟩ ⟨rfl, rfl⟩ _ _
    exact ⟨rfl, rfl⟩

-----------------------------------------------------------------------------------------
-- Runs
-----------------------------------------------------------------------------------------

namespace Core

/-- The processor has been reset, or has taken over a snapshot whose numbers are in range. -/
def Begins (core : Core μ) : Prop :=
  core.cpu = powerOn
    ∨ ∃ (snapshot : Snapshot) (before : Core μ),
        snapshot.registers.InRange ∧ core = snapshot.applyTo before

theorem Begins.inRange {core : Core μ} (begins : core.Begins) : core.cpu.registers.InRange := by
  rcases begins with reset | ⟨snapshot, before, inRange, rfl⟩
  · rw [reset]
    exact Registers.powerOn_inRange
  · exact inRange

/-- One step after another, each after a change that someone else has made to the interrupt
controller. A step that meets an undefined opcode does not keep the next one from being tried.
-/
def after (bus : Bus μ) : List (Interrupts → Interrupts) → Core μ → Core μ
  | [], core => core
  | change :: history, core =>
    after bus history ((step bus).run { core with interrupts := change core.interrupts }).2

/-- A run keeps what its steps keep, if nobody else can break it at the interrupt controller. -/
theorem Within.after {P : Interrupts × μ → Prop} {bus : Bus μ} (keeps : bus.Keeps P)
    (remote : ∀ {interrupts memory}, P (interrupts, memory) → ∀ other, P (other, memory))
    (history : List (Interrupts → Interrupts)) {core : Core μ} (within : Within P core)
    : Within P (core.after bus history) := by
  induction history generalizing core with
  | nil => exact within
  | cons change history ih =>
      have changed : Within P { core with interrupts := change core.interrupts } :=
        ⟨within.inRange, remote within.around _⟩
      exact ih (changed.step keeps)

/-- A monitor does not show in a run. -/
theorem Alike.after {bus : Bus μ} (history : List (Interrupts → Interrupts))
    {seen : Core (Monitored μ)} {plain : Core μ} (alike : Alike Monitored.Like seen plain)
    : Alike Monitored.Like (seen.after bus.monitored history) (plain.after bus history) := by
  induction history generalizing seen plain with
  | nil => exact alike
  | cons change history ih =>
      obtain ⟨interrupts, memory⟩ := alike.around
      have changed : Alike Monitored.Like
          (forgotten { seen with interrupts := change seen.interrupts })
          (forgotten { plain with interrupts := change plain.interrupts }) :=
        { alike with
          lastInstruction := rfl
          lastInterrupt := rfl
          around := ⟨congrArg change interrupts, memory⟩ }
      exact ih (changed.step bus.monitored_congruent).2

/-- However the bus answers, however long a processor runs from a reset or a snapshot and whatever
happens to the interrupt controller meanwhile: its registers stay in range, the low half of its
flag register stays zero, and it hands no number to the bus that is out of range. That the monitor
makes no difference is part of it.
-/
theorem after_inRange (bus : Bus μ) (history : List (Interrupts → Interrupts)) {core : Core μ}
    (begins : core.Begins)
    : (core.after bus history).cpu.registers.InRange
        ∧ IsByte (core.after bus history).cpu.registers.f
        ∧ (core.after bus history).cpu.registers.f % 16 = 0
        ∧ (∀ access ∈ (core.monitored.after bus.monitored history).memory.accesses,
            access.InRange)
        ∧ Alike Monitored.Like (core.monitored.after bus.monitored history)
            (core.after bus history) := by
  -- The list of accesses belongs to the run with the monitor on, the registers to both runs.
  have start : Within Monitored.InRange core.monitored :=
    ⟨begins.inRange, fun _ seen => absurd seen List.not_mem_nil⟩
  have run := start.after bus.monitored_keeps (fun holds _ => holds) history
  have same : Alike Monitored.Like core.monitored core :=
    { registers := Registers.same_iff.mpr ⟨begins.inRange, rfl⟩, halted := rfl, stopped := rfl
      haltBug := rfl, eiPending := rfl, instructionCount := rfl, lastInstruction := rfl
      lastInterrupt := rfl, around := ⟨rfl, rfl⟩ }
  have alike : Alike Monitored.Like (core.monitored.after bus.monitored history)
      (core.after bus history) := same.after history
  have inRange : (core.after bus history).cpu.registers.InRange := by
    obtain ⟨_, _, plain⟩ := alike.registers
    exact plain.inRange
  obtain ⟨byte, low⟩ := Registers.f_isByte (core.after bus history).cpu.registers
  exact ⟨inRange, byte, low, run.around, alike⟩

end Core

/-- A bus that answers a number beyond all bytes, which every access makes one less. -/
def Bus.dwindling : Bus Int where
  read _ interrupts memory := (memory, interrupts, memory - 1)
  write _ _ interrupts memory := (interrupts, memory - 1)

theorem Core.after_inRange_dwindling
    : let core : Core Int := { cpu := powerOn, interrupts := {}, memory := -27 }
      let history := [id, Interrupts.setMaster true]
      core.Begins
        ∧ (core.after Bus.dwindling history).cpu.registers.InRange
        ∧ (∀ access ∈ (core.monitored.after Bus.dwindling.monitored history).memory.accesses,
            access.InRange)
        ∧ (core.monitored.after Bus.dwindling.monitored history).memory.accesses
          = [.write 0xFF13 1, .read 0x0101, .write 0xFFFC 0x4D, .write 0xFFFD 1, .read 0x0100] := by
  intro core history
  have begins : core.Begins := Or.inl rfl
  obtain ⟨inRange, _, _, accesses, _⟩ := after_inRange Bus.dwindling history begins
  exact ⟨begins, inRange, accesses, by decide +kernel⟩

end Handheld.Cpu
