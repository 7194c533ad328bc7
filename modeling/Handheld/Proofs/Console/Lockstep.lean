import Handheld.Proofs.Console.Requests
import Handheld.Proofs.Timer.Counting

/-! Clock and divider run at one pace.
The divider counts the cycles on the clock since a step last wrote it, or since the run began.
-/

namespace Handheld

-----------------------------------------------------------------------------------------
-- What an access does to the divider
-----------------------------------------------------------------------------------------

/-- A write to the divider, which starts it again whatever is written. -/
def Cpu.Access.restarts : Cpu.Access → Bool
  | .read _ => false
  | .write address _ => address % 0x10000 = 0xFF04

namespace Memory

theorem write_divider (m : Memory) (address value : Int) (interrupts : Interrupts)
    : (m.write address value interrupts).2.timer.divider
      = if (Cpu.Access.write address value).restarts then 0 else m.timer.divider := by
  have number := Address.val_ofInt address
  simp only [Cpu.Access.restarts, decide_eq_true_iff]
  split
  case isTrue here =>
    have divider : Address.ofInt address = 0xFF04 := Fin.ext (by omega)
    rw [write, divider]
    rfl
  case isFalse elsewhere =>
    rw [write]
    cases denoted : place (Address.ofInt address) with
    | timer register =>
        cases register with
        | div =>
            have divider := place_divider denoted
            omega
        | tima | tma | tac => rfl
    | _ => rfl

/-- The divider has been started again by an access so far, or is as it was. -/
def Divides (start : Word) (around : Interrupts × Memory) (notes : List Cpu.Access) : Prop :=
  around.2.timer.divider = if notes.any Cpu.Access.restarts then 0 else start

theorem bus_divides (start : Word) : bus.Records (Divides start) where
  setMaster divides _ := divides
  read divides _ := divides
  write := by
    intro interrupts m notes divides address value
    rw [Divides, List.any_cons]
    refine (write_divider m address value interrupts).trans ?_
    cases (Cpu.Access.write address value).restarts with
    | false => exact divides
    | true => rfl

end Memory

-----------------------------------------------------------------------------------------
-- Steps
-----------------------------------------------------------------------------------------

namespace Console

variable {c d e : Console}

/-- The processor itself does nothing to the divider but start it again. -/
theorem worked_divider (healthy : c.fault = none)
    : c.worked.memory.timer.divider
      = if c.accesses.any Cpu.Access.restarts then 0 else c.memory.timer.divider := by
  have behind := (Memory.bus_divides c.memory.timer.divider).step c.core
    (fun _ _ _ _ _ _ divides => divides) rfl
  rw [accesses_healthy healthy, List.any_reverse]
  exact behind

/-- The timer sees the cycles of a step behind all writes, and so does the clock. -/
theorem step_divider {cycles : Nat} (stepped : c.step = (.ok cycles, d))
    : d.memory.timer.divider.value
          = ((if c.accesses.any Cpu.Access.restarts then 0 else c.memory.timer.divider.value)
              + cycles) % 65536
        ∧ d.clock.cycles = c.clock.cycles + cycles := by
  cases c.stepping stepped with
  | @succeeds cycles core healthy ran =>
      obtain ⟨outbox, announcedBanks, concluded⟩ :=
        conclude_eq cycles { c with core, clock := c.clock.after cycles }
      rw [concluded]
      refine ⟨?_, rfl⟩
      have worked := worked_divider healthy
      rw [Console.worked, ran] at worked
      have counted : (core.memory.timer.tick cycles core.interrupts).1.divider.value
          = (core.memory.timer.divider.value + cycles) % 65536 := by
        rw [Timer.tick_divider, Word.toNat_ofInt]
        rfl
      refine counted.trans (congrArg (fun start : Int => (start + cycles) % 65536) ?_)
      rw [worked]
      split <;> rfl

/-- The divider has counted the cycles on the clock from `c` to `d`, or those since it was started
again at some count of the clock.
-/
def Lockstep (c : Console) (restart : Option Int) (d : Console) : Prop :=
  d.memory.timer.divider.value
    = match restart with
      | none => (c.memory.timer.divider.value + (d.clock.cycles - c.clock.cycles)) % 65536
      | some start => (d.clock.cycles - start) % 65536

theorem Lockstep.refl (c : Console) : c.Lockstep none c := by
  have bound := c.memory.timer.divider.isLt
  simp only [Lockstep, Word.value]
  omega

theorem Lockstep.trans {first second : Option Int} (left : c.Lockstep first d)
    (right : d.Lockstep second e)
    : c.Lockstep (second.or first) e := by
  cases second with
  | some start => exact right
  | none =>
      cases first <;> simp only [Lockstep, Option.or_none, Option.none_or] at left right ⊢ <;> omega

/-- The count of the clock at which a turn starts the divider again, which only a step can do. -/
def restart? (c : Console) : Turn → Option Int
  | .step => if c.accesses.any Cpu.Access.restarts then some c.clock.cycles else none
  | _ => none

/-- A turn that does not stop a run: a step that succeeds, or something between two steps that does
not reach clock and timer.
-/
def continues (c : Console) : Turn → Bool
  | .step => c.step.1.isOk
  | .write _ _ | .reset | .load _ => false
  | _ => true

theorem step_lockstep {cycles : Nat} (stepped : c.step = (.ok cycles, d))
    : c.Lockstep (c.restart? .step) d := by
  obtain ⟨divider, clock⟩ := step_divider stepped
  rw [restart?]
  cases restarted : c.accesses.any Cpu.Access.restarts <;>
    simp only [restarted, Bool.false_eq_true, ↓reduceIte, Lockstep] at divider ⊢ <;> omega

theorem play_lockstep {turn : Turn} (continues : c.continues turn = true)
    : c.Lockstep (c.restart? turn) (c.play turn).2 := by
  cases turn with
  | step =>
      change c.step.1.isOk = true at continues
      cases answer : c.step.1 with
      | error error =>
          rw [answer] at continues
          cases continues
      | ok cycles => exact step_lockstep (Prod.ext answer rfl)
  | write | reset | load => cases continues
  | _ => exact .refl c

-----------------------------------------------------------------------------------------
-- Runs
-----------------------------------------------------------------------------------------

/-- No turn of some, taken one after the other, stops a run. -/
def proceeds (c : Console) : List Turn → Bool
  | [] => true
  | turn :: rest => c.continues turn && (c.play turn).2.proceeds rest

/-- The count of the clock at the beginning of the last step of a run that starts the divider again.
-/
def lastRestart? (c : Console) : List Turn → Option Int
  | [] => none
  | turn :: rest => ((c.play turn).2.lastRestart? rest).or (c.restart? turn)

/-- Over every run of successful steps, the divider has counted the cycles that have passed on the
clock since the beginning of the last step that wrote it, or since the beginning of the run.
-/
theorem playAll_lockstep {turns : List Turn} (proceeds : c.proceeds turns = true)
    : c.Lockstep (c.lastRestart? turns) (playAll turns c).2 := by
  induction turns generalizing c with
  | nil => exact .refl c
  | cons turn rest ih =>
      obtain ⟨continues, later⟩ := Bool.and_eq_true_iff.mp proceeds
      exact (play_lockstep continues).trans (ih later)

/-- A blank console that is to execute `STOP` from the enable register, some time after it has been
switched on. The stack is on the divider.
-/
def stopping : Console :=
  { blank with
    clock := { cycles := 100 }
    core :=
      { blank.core with
        cpu.registers := { pc := 0xFFFF, sp := 0xFF06 }
        interrupts := { enable := 0x10, master := true } } }

/-- The divider starts again with the `STOP`, and once more when a key has ended the wait. -/
theorem playAll_lockstep_stopping
    : let turns : List Turn := [.step, .step, .press .start, .step]
      stopping.proceeds turns = true ∧ stopping.lastRestart? turns = some 108
        ∧ stopping.Lockstep (some 108) (playAll turns stopping).2 := by
  intro turns
  have proceeds : stopping.proceeds turns = true := by decide +kernel
  have last : stopping.lastRestart? turns = some 108 := by decide +kernel
  exact ⟨proceeds, last, last ▸ playAll_lockstep proceeds⟩

end Console

end Handheld
