import Handheld.Proofs.Cpu.FlatRam
import Handheld.Proofs.Simulation

/-! The stack of a processor over plain memory.
What was pushed comes back in reverse order as long as the stack has not run into itself, wherever
it lies and though it goes on at the other end of the memory.
-/

namespace Handheld.Cpu.Core

-----------------------------------------------------------------------------------------
-- One number
-----------------------------------------------------------------------------------------

/-- To push is to put a number below the stack pointer, which moves down by two. -/
theorem run_push (value : Int) (core : Core FlatRam)
    : (push FlatRam.bus value).run core
      = ((), { core with
          cpu.registers.sp := (core.cpu.registers.sp - 2) % 65536
          memory := core.memory.stack core.cpu.registers.sp value }) := by
  obtain ⟨cpu, interrupts, ram⟩ := core
  have ran : (push FlatRam.bus value).run ⟨cpu, interrupts, ram⟩
      = ((), {
          cpu := { cpu with registers.sp := ((cpu.registers.sp - 1) % 65536 - 1) % 65536 }
          interrupts
          memory := (ram.set ((cpu.registers.sp - 1) % 65536)
              (Byte.ofInt (value / 256 % 256))).set
            (((cpu.registers.sp - 1) % 65536 - 1) % 65536) (Byte.ofInt (value % 256)) }) := rfl
  have below : ((cpu.registers.sp - 1) % 65536 - 1) % 65536 = (cpu.registers.sp - 2) % 65536 := by
    omega
  rw [ran, below, Byte.ofInt_emod, Byte.ofInt_emod,
    ram.set_congr (Int.emod_emod (cpu.registers.sp - 1) 65536),
    FlatRam.set_congr _ (Int.emod_emod (cpu.registers.sp - 2) 65536), FlatRam.stack]

/-- To pop is to take the number at the stack pointer, which moves up by two. -/
theorem run_pop (core : Core FlatRam)
    : (pop FlatRam.bus).run core
      = (core.memory.word core.cpu.registers.sp,
          { core with cpu.registers.sp := (core.cpu.registers.sp + 2) % 65536 }) := by
  obtain ⟨cpu, interrupts, ram⟩ := core
  have ran : (pop FlatRam.bus).run ⟨cpu, interrupts, ram⟩
      = ((ram.get ((cpu.registers.sp + 1) % 65536)).value % 256 * 256
            + (ram.get cpu.registers.sp).value % 256, {
          cpu := { cpu with registers.sp := ((cpu.registers.sp + 1) % 65536 + 1) % 65536 }
          interrupts
          memory := ram }) := rfl
  have above : ((cpu.registers.sp + 1) % 65536 + 1) % 65536 = (cpu.registers.sp + 2) % 65536 := by
    omega
  rw [ran, above, FlatRam.get_emod, Byte.value_emod, Byte.value_emod, FlatRam.word]

-----------------------------------------------------------------------------------------
-- Many numbers
-----------------------------------------------------------------------------------------

variable {μ : Type}

/-- Puts numbers on the stack, one after the other. -/
def pushAll (bus : Bus μ) : List Word → StateM (Core μ) Unit
  | [] => pure ()
  | word :: later => do
    push bus word.value
    pushAll bus later

/-- Takes so many numbers from the stack, and lists them in that order. -/
def popAll (bus : Bus μ) : Nat → StateM (Core μ) (List Int)
  | 0 => pure []
  | count + 1 => do
    let earlier ← popAll bus count
    let last ← pop bus
    return earlier ++ [last]

/-- Nothing is different, save for cells where so many numbers have been on the stack. -/
structure Unwound (count : Nat) (core after : Core FlatRam) : Prop where
  cpu : after.cpu = core.cpu
  interrupts : after.interrupts = core.interrupts
  ram
    : ∀ address, ¬FlatRam.Below core.cpu.registers.sp (2 * count) address →
        after.memory.get address = core.memory.get address

/-- A number that is pushed first and popped last comes back, if all that happens meanwhile stays
below it.
-/
theorem Unwound.around {core after : Core FlatRam} {word : Word} {count : Nat}
    (inRange : IsWord core.cpu.registers.sp) (room : 2 * (count + 1) ≤ 65536)
    (inner : Unwound count ((push FlatRam.bus word.value).run core).2 after)
    : ((pop FlatRam.bus).run after).1 = word.value
        ∧ Unwound (count + 1) core ((pop FlatRam.bus).run after).2 := by
  obtain ⟨cpu, interrupts, ram⟩ := inner
  obtain ⟨low, high⟩ := inRange
  rw [run_push] at cpu interrupts ram
  dsimp only at cpu interrupts ram
  have sp : after.cpu.registers.sp = (core.cpu.registers.sp - 2) % 65536 := by rw [cpu]
  -- The two cells of the number lie above all that was pushed on top of it.
  have kept (offset : Int) (inside : 0 ≤ offset ∧ offset < 2)
      : after.memory.get (core.cpu.registers.sp - 2 + offset)
        = (core.memory.stack core.cpu.registers.sp word.value).get
            (core.cpu.registers.sp - 2 + offset) := by
    refine ram _ ?_
    rw [FlatRam.Below]
    omega
  have popped : after.memory.word after.cpu.registers.sp = word.value := by
    have number : word.value % 65536 = word.value := by
      have bound := word.isLt
      rw [Word.value]
      omega
    rw [← number, ← core.memory.word_stack core.cpu.registers.sp, FlatRam.word, FlatRam.word, sp,
      after.memory.get_congr (Int.emod_add_emod (core.cpu.registers.sp - 2) 65536 1),
      FlatRam.get_emod, kept 1 (by omega)]
    have first := kept 0 (by omega)
    rw [Int.add_zero] at first
    rw [first]
  rw [run_pop]
  refine ⟨popped, ?_, interrupts, fun address outside => ?_⟩
  · have back : (after.cpu.registers.sp + 2) % 65536 = core.cpu.registers.sp := by omega
    dsimp only
    rw [back, cpu]
  · rw [FlatRam.Below] at outside
    have off : ¬FlatRam.Below core.cpu.registers.sp 2 address := by
      rw [FlatRam.Below]
      omega
    have beyond
        : ¬FlatRam.Below ((core.cpu.registers.sp - 2) % 65536) (2 * count) address := by
      rw [FlatRam.Below]
      omega
    exact (ram address beyond).trans (core.memory.get_stack_off off word.value)

theorem popAll_succ {bus : Bus μ} {core between : Core μ} {count : Nat} {earlier : List Int}
    (popped : (popAll bus count).run core = (earlier, between))
    : (popAll bus (count + 1)).run core
      = (earlier ++ [((pop bus).run between).1], ((pop bus).run between).2) := by
  rw [popAll, run_bind_of popped]
  rfl

/-- As many numbers as the memory has room for come back from the stack in reverse order. The
processor is as before, and so is the memory outside of the cells that they have been in.
-/
theorem pushAll_popAll (core : Core FlatRam) (inRange : IsWord core.cpu.registers.sp)
    {words : List Word} (room : words.length ≤ 32768)
    : ∃ after,
        (popAll FlatRam.bus words.length).run ((pushAll FlatRam.bus words).run core).2
            = (words.reverse.map Word.value, after)
          ∧ Unwound words.length core after := by
  induction words generalizing core with
  | nil => exact ⟨core, rfl, rfl, rfl, fun _ _ => rfl⟩
  | cons word later ih =>
      rw [List.length_cons] at room
      have pushed : IsWord ((push FlatRam.bus word.value).run core).2.cpu.registers.sp := by
        rw [run_push, IsWord]
        dsimp only
        omega
      obtain ⟨between, popped, inner⟩ := ih _ pushed (by omega)
      obtain ⟨last, outer⟩ := inner.around inRange (by omega)
      refine ⟨_, (popAll_succ popped).trans ?_, outer⟩
      rw [last, List.reverse_cons, List.map_append, List.map_singleton]

/-- The stack goes on at the end of the memory, and one number lies on both ends. -/
theorem pushAll_popAll_wrapping
    : let core : Core FlatRam :=
        { cpu := { registers := { sp := 3 } }, interrupts := {}, memory := FlatRam.zeros }
      let words : List Word := [0x1234, 0xABCD, 0xFFFF]
      IsWord core.cpu.registers.sp ∧ words.length ≤ 32768
        ∧ ∃ after,
            (popAll FlatRam.bus 3).run ((pushAll FlatRam.bus words).run core).2
                = ([0xFFFF, 0xABCD, 0x1234], after)
              ∧ Unwound 3 core after := by
  intro core words
  have inRange : IsWord core.cpu.registers.sp := ⟨by decide, by decide⟩
  have room : words.length ≤ 32768 := by decide
  exact ⟨inRange, room, pushAll_popAll core inRange room⟩

end Handheld.Cpu.Core
