import Handheld.Proofs.Cpu.Course
import Handheld.Proofs.Cpu.Monitoring

/-! Where a step writes.
The most that a step writes is the two halves of a word, so all its writes go to two neighbouring
addresses. A step that writes to some register reaches no other one but those next to it.
-/

namespace Handheld.Cpu

variable {μ α β : Type}

/-- The address of a write. -/
def Access.written? : Access → Option Int
  | .read _ => none
  | .write address _ => some address

/-- The addresses that have been written to so far, the latest first. -/
def Core.written (core : Core (Monitored μ)) : List Int :=
  core.memory.accesses.filterMap Access.written?

/-- All addresses are one address or the one behind it, where the last one is followed by the first.
-/
def Neighbouring (addresses : List Int) : Prop :=
  ∃ low : Int, ∀ address ∈ addresses, address % 65536 = low % 65536 ∨ address % 65536 = (low + 1) % 65536

theorem neighbouring_nil : Neighbouring [] :=
  ⟨0, List.forall_mem_nil _⟩

theorem neighbouring_single (address : Int) : Neighbouring [address] :=
  ⟨address, List.forall_mem_singleton.mpr (.inl rfl)⟩

theorem neighbouring_pair {low high : Int} (next : high % 65536 = (low + 1) % 65536)
    : Neighbouring [low, high] ∧ Neighbouring [high, low] := by
  have both : ∀ address, address = low ∨ address = high →
      address % 65536 = low % 65536 ∨ address % 65536 = (low + 1) % 65536 := by
    rintro address (rfl | rfl)
    · exact .inl rfl
    · exact .inr next
  exact ⟨⟨low, by simpa using both⟩, ⟨low, by simpa [or_comm] using both⟩⟩

/-- A program that finds nothing written leaves neighbouring addresses written at most. -/
def Pairs (p : StateM (Core (Monitored μ)) α) : Prop :=
  ∀ core, core.written = [] → Neighbouring (p.run core).2.written

/-- The registers and the reads show nowhere among the writes. -/
theorem ReadFrame.written (bus : Bus μ) : ReadFrame bus.monitored Core.written where
  registers _ _ := rfl
  read _ _ := rfl

namespace Pairs

theorem silent {p : StateM (Core (Monitored μ)) α} (leaves : Leaves Core.written p) : Pairs p := by
  intro core none
  rw [leaves core, none]
  exact neighbouring_nil

/-- What writes nothing may come first. -/
theorem behind {p : StateM (Core (Monitored μ)) α} {f : α → StateM (Core (Monitored μ)) β}
    (first : Leaves Core.written p) (rest : ∀ answer, Pairs (f answer))
    : Pairs (p >>= f) :=
  fun core none => rest (p.run core).1 (p.run core).2 ((first core).trans none)

/-- What writes nothing may follow. -/
theorem before {p : StateM (Core (Monitored μ)) α} {f : α → StateM (Core (Monitored μ)) β}
    (first : Pairs p) (rest : ∀ answer, Leaves Core.written (f answer))
    : Pairs (p >>= f) := by
  intro core none
  have kept : ((p >>= f).run core).2.written = (p.run core).2.written :=
    rest (p.run core).1 (p.run core).2
  rw [kept]
  exact first core none

theorem answering {p : StateM (Core (Monitored μ)) α} (first : Pairs p) (answer : β)
    : Pairs (p >>= fun _ => Pure.pure answer) :=
  first.before fun _ => .pure _

/-- What depends on a test writes as much as its work does. -/
theorem onTest {condition : Option Condition} {work : Bool → StateM (Core (Monitored μ)) Bool}
    (pairs : ∀ taken, Pairs (work taken))
    : Pairs (Core.isTaken condition >>= fun taken =>
        if taken then work taken else Pure.pure taken) := by
  refine .behind (ReadFrame.isTaken condition) fun taken => ?_
  cases taken with
  | false => exact .silent (.pure _)
  | true => exact pairs true

variable (bus : Bus μ)

theorem write (address value : Int) : Pairs (Core.write bus.monitored address value) := by
  intro core none
  have written : ((Core.write bus.monitored address value).run core).2.written
      = address :: core.written := rfl
  rw [written, none]
  exact neighbouring_single address

/-- The low half goes on the stack below the high one. -/
theorem push (value : Int) : Pairs (Core.push bus.monitored value) := by
  intro core none
  have written : ((Core.push bus.monitored value).run core).2.written
      = ((core.cpu.registers.sp - 1) % 65536 - 1) % 65536 :: (core.cpu.registers.sp - 1) % 65536
        :: core.written := rfl
  rw [written, none]
  exact (neighbouring_pair (by omega)).1

theorem writeOperand (immediate : Int) (operand : Operand) (value : Int)
    : Pairs (Core.writeOperand bus.monitored immediate operand value) := by
  cases operand with
  | register register => exact .silent ((ReadFrame.written bus).registers _)
  | memory pointer =>
      exact .behind ((ReadFrame.written bus).addressOf immediate pointer) fun _ => write bus _ _
  | immediate => exact .silent (.pure _)

/-- An instruction writes a byte or a word at most. -/
theorem execute (instruction : Instruction) (immediate : Int)
    : Pairs (Core.execute bus.monitored instruction immediate) := by
  have frame := ReadFrame.written bus
  have change := frame.registers
  have registers : Leaves Core.written (Core.getRegisters (μ := Monitored μ)) :=
    ReadFrame.getRegisters
  cases instruction with
  | nop | extend => exact .silent (.pure _)
  | stop => exact .behind (fun _ => rfl) fun _ => (write bus _ _).answering _
  | halt =>
      refine .silent fun core => ?_
      rw [Core.run_halt]
      dsimp only
      split <;> rfl
  | di | ei => exact .silent fun _ => rfl
  | load target source =>
      exact .behind (frame.readOperand _ _) fun _ => (writeOperand bus _ _ _).answering _
  | storeSp =>
      intro core none
      have written : ((Core.execute bus.monitored .storeSp immediate).run core).2.written
          = (immediate + 1) % 65536 :: immediate :: core.written := rfl
      rw [written, none]
      exact (neighbouring_pair (Int.emod_emod _ _)).2
  | push source => exact .behind registers fun _ => (push bus _).answering _
  | pop target => exact .silent (frame.pop.bind fun _ => (change _).answering _)
  | inc target | dec target =>
      refine .behind (frame.readOperand _ _) fun _ => .behind (change _) fun _ => ?_
      exact (writeOperand bus _ _ _).answering _
  | arithmetic operation source | bit index source =>
      exact .silent ((frame.readOperand _ _).bind fun _ => (change _).answering _)
  | jump condition => exact onTest fun _ => .silent ((frame.jumpTo _).answering _)
  | jumpRelative condition => exact onTest fun _ => .silent ((change _).answering _)
  | call condition =>
      refine onTest fun _ => .behind registers fun _ => (push bus _).before fun _ => ?_
      exact (frame.jumpTo immediate).answering _
  | ret condition =>
      exact onTest fun _ => .silent (frame.pop.bind fun _ => (frame.jumpTo _).answering _)
  | reti =>
      have switched : Leaves Core.written
          (Core.onInterrupts (μ := Monitored μ) (·.setMaster true)) := fun _ => rfl
      refine .silent (frame.pop.bind fun _ => (frame.jumpTo _).bind fun _ => ?_)
      exact switched.answering _
  | rst vector =>
      refine .behind registers fun _ => (push bus _).before fun _ => ?_
      exact (frame.jumpTo _).answering _
  | rotate operation target =>
      refine .behind (frame.readOperand _ _) fun _ => .behind registers fun _ => ?_
      exact .behind (change _) fun _ => (writeOperand bus _ _ _).answering _
  | reset index target | set index target =>
      exact .behind (frame.readOperand _ _) fun _ => (writeOperand bus _ _ _).answering _
  | _ => exact .silent ((change _).answering _)

end Pairs

namespace Core

theorem completed_written (core : Core (Monitored μ)) (pending : Bool)
    : (core.completed pending).written = core.written := by
  rw [completed]
  dsimp only
  split <;> rfl

/-- All writes of a step go to two neighbouring addresses at most. -/
theorem step_neighbouring (bus : Bus μ) (core : Core (Monitored μ)) (none : core.written = [])
    : Neighbouring ((step bus.monitored).run core).2.written := by
  have course := course bus.monitored core
  have read {answer : Except Fault (Instruction × Int)} {fetched : Core (Monitored μ)}
      (found : (fetch bus.monitored).run core.forgotten = (answer, fetched))
      : fetched.written = [] := by
    have kept := fetch_leaves (fun _ _ => rfl) (ReadFrame.written bus).read core.forgotten
    rw [found] at kept
    exact kept.trans none
  generalize ((step bus.monitored).run core).1 = outcome at course
  generalize ((step bus.monitored).run core).2 = after at course ⊢
  cases course with
  | waits waiting =>
      have kept : core.forgotten.written = core.written := rfl
      rw [kept, none]
      exact neighbouring_nil
  | @serves source called first =>
      have written : ((dispatch bus.monitored source).run core.forgotten).2.written
          = ((core.cpu.registers.sp - 1) % 65536 - 1) % 65536 :: (core.cpu.registers.sp - 1) % 65536
            :: core.written := rfl
      rw [written, none]
      exact (neighbouring_pair (by omega)).1
  | faults awake undisturbed found =>
      rw [read found]
      exact neighbouring_nil
  | executes awake undisturbed found =>
      rw [completed_written]
      exact Pairs.execute bus _ _ _ (read found)

end Core

end Handheld.Cpu
