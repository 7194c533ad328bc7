import Handheld.Proofs.Console.Course
import Handheld.Proofs.Memory.Routing

/-! What an undefined opcode does to a console.
It is the only thing at which a step can fail, and the machine stays as it was. The console refuses
every step from then on, until it is reset or takes over a bundle.
-/

namespace Handheld

open Stage (Keeps)

namespace Console

variable {c d : Console} {fault : Cpu.Fault}

-----------------------------------------------------------------------------------------
-- The step that fails
-----------------------------------------------------------------------------------------

/-- The next step neither waits nor serves an interrupt, and finds an undefined opcode. -/
structure Stumbles (c : Console) : Prop where
  busy : c.core.idles = false
  undisturbed : c.core.interrupted = false
  undefined : c.core.opcode ∈ Reference.undefinedOpcodes

/-- The opcode at the program counter, as a fault. -/
def obstacle (c : Console) : Cpu.Fault where
  opcode := c.core.opcode
  pc := c.cpu.registers.pc

/-- A step that fails on a console without a fault has found an undefined opcode, and does no more
than to read it.
-/
theorem step_error {error : Error} (healthy : c.fault = none)
    (failed : c.step = (.error error, d))
    : c.Stumbles ∧ error = .undefinedOpcode c.obstacle
        ∧ d = keepFault c.obstacle { c with core := c.core.forgotten.glanced } := by
  have course := Cpu.Core.course Memory.bus c.core
  cases c.stepping failed with
  | halted faulted => cases healthy.symm.trans faulted
  | fails _ ran =>
      rw [ran] at course
      cases course with
      | faults busy undisturbed found =>
          obtain ⟨undefined, rfl, rfl⟩ := Cpu.Core.fetch_bus_error found
          exact ⟨⟨busy, undisturbed, undefined⟩, rfl, rfl⟩

/-- A step that finds an undefined opcode fails. -/
theorem Stumbles.step_fst (stumbles : c.Stumbles) (healthy : c.fault = none)
    : c.step.1 = .error (.undefinedOpcode c.obstacle) := by
  have undefined : c.core.forgotten.opcode ∈ Reference.undefinedOpcodes := stumbles.undefined
  have fetched := Cpu.Core.run_executeNext_fault (Cpu.Core.run_fetch_bus_undefined undefined)
  have stepped := (Cpu.Core.run_step_executes Memory.bus stumbles.busy stumbles.undisturbed).trans
    fetched
  simp only [step, healthy, Cpu.Clocked.step, stepped]
  rfl

/-- Only the notes of the last step, the count and the log of reads, and the fault are not what they
were in `c`, besides what waits to be delivered.
-/
structure Stranded (c : Console) (fault : Cpu.Fault) (d : Console) : Prop where
  cpu : d.cpu = { c.cpu with lastInstruction := none, lastInterrupt := none }
  interrupts : d.interrupts = c.interrupts
  memory
    : d.memory
      = { c.memory with
          readCount := c.memory.readCount + 1
          log := c.memory.log.noteRead (Address.ofInt fault.pc) fault.opcode }
  fault : d.fault = some fault
  rest : d = { c with core := d.core, fault := d.fault, outbox := d.outbox }

/-- An undefined opcode leaves everything else in place. -/
theorem stranded_keepFault (c : Console)
    : c.Stranded c.obstacle (keepFault c.obstacle { c with core := c.core.forgotten.glanced }) := by
  obtain ⟨outbox, kept⟩ := keepFault_eq c.obstacle { c with core := c.core.forgotten.glanced }
  rw [kept]
  exact { cpu := rfl, interrupts := rfl, memory := rfl, fault := rfl, rest := rfl }

-----------------------------------------------------------------------------------------
-- What ends a fault
-----------------------------------------------------------------------------------------

/-- A reset, or a load that succeeds. -/
def Revives (c : Console) : Turn → Prop
  | .reset => True
  | .load saved => ((load saved).perform c).1 = .ok ()
  | _ => False

/-- Among some turns, taken one after the other, none is a reset or a load that succeeds. -/
def Unrevived (c : Console) : List Turn → Prop
  | [] => True
  | turn :: rest => ¬c.Revives turn ∧ (c.play turn).2.Unrevived rest

/-- The last stage of a load, in which the time line is taken over and the fault is forgotten. -/
def lastStage (description : Json) : Stage Console :=
  .taking (description.intMember "cycle_count" 0) fun cycles console =>
    { console with cycleOffset := console.clock.cycles - cycles, fault := none }

/-- No stage but the last touches the fault, the clock or its distance from the time line. -/
theorem stages_eq (found : Found)
    : ∃ earlier, stages found = earlier ++ [lastStage found.opened.description]
        ∧ Keeps (fun c => (c.fault, c.clock, c.cycleOffset)) earlier := by
  have processor : cpuStages found.opened.description found.registers
      = (cpuStages found.opened.description found.registers).dropLast
        ++ [lastStage found.opened.description] := rfl
  rw [stages, processor, ← List.append_assoc, ← List.append_assoc, ← List.append_assoc]
  refine ⟨_, rfl, .append (.append (.append ?_ ?_) ?_) ?_⟩
  · exact .within _ (fun _ _ => rfl) _
  · exact .within _ (fun _ _ => rfl) _
  · refine .append (.cons (fun _ _ => rfl) .nil) (.append (.within _ (fun _ _ => rfl) _) ?_)
    exact .append (.within _ (fun _ _ => rfl) _) (.within _ (fun _ _ => rfl) _)
  · exact .cons (fun _ _ => rfl) (.cons (fun _ _ => rfl) .nil)

/-- What a load does to the fault and to the time, by its outcome. -/
inductive Loading (c : Console) (saved : Option Bundle) : Except Error Unit → Console → Prop
  | fails {error : Error} {d : Console} (fault : d.fault = c.fault) (clock : d.clock = c.clock)
      (cycleOffset : d.cycleOffset = c.cycleOffset)
    : Loading c saved (.error error) d
  | succeeds {found : Found} {line : Int} {d : Console}
      (looked : ((inspect saved).perform c).1 = .ok found)
      (dated : found.opened.description.intMember "cycle_count" 0 = .ok line)
      (fault : d.fault = none) (clock : d.clock = c.clock)
      (cycleOffset : d.cycleOffset = c.clock.cycles - line)
    : Loading c saved (.ok ()) d

theorem loading {saved : Option Bundle} {outcome : Except Error Unit}
    (loaded : (load saved).perform c = (outcome, d))
    : c.Loading saved outcome d := by
  cases looked : ((inspect saved).perform c).1 with
  | error error =>
      rw [load_refused looked] at loaded
      cases loaded
      exact .fails rfl rfl rfl
  | ok found =>
      rw [load_found looked] at loaded
      obtain ⟨earlier, split, kept⟩ := stages_eq found
      rw [split] at loaded
      cases ran : Stage.runAll earlier c with
      | mk first between =>
          obtain ⟨fault, time⟩ := Prod.mk.inj (kept.runAll ran)
          obtain ⟨clock, cycleOffset⟩ := Prod.mk.inj time
          cases first with
          | error error =>
              rw [Stage.runAll_append_of_error ran] at loaded
              cases loaded
              exact .fails fault clock cycleOffset
          | ok _ =>
              rw [Stage.runAll_append_of_ok ran] at loaded
              cases read : found.opened.description.intMember "cycle_count" 0 with
              | error reason =>
                  have refused : (lastStage found.opened.description).read between
                      = .error (.misfit reason) := congrArg (Except.mapError Error.misfit) read
                  rw [Stage.runAll_cons_of_error refused] at loaded
                  cases loaded
                  exact .fails fault clock cycleOffset
              | ok line =>
                  have taken : (lastStage found.opened.description).read between = .ok line :=
                    congrArg (Except.mapError Error.misfit) read
                  rw [Stage.runAll_cons_of_read taken] at loaded
                  cases loaded
                  exact .succeeds looked read rfl clock
                    (congrArg (fun clock : Clock => clock.cycles - line) clock)

/-- A load that fails leaves a fault in place, and one that succeeds ends it. -/
theorem load_fault {saved : Option Bundle} {outcome : Except Error Unit}
    (loaded : (load saved).perform c = (outcome, d))
    : d.fault = match outcome with | .ok _ => none | .error _ => c.fault := by
  cases loading loaded with
  | fails fault _ _ => exact fault
  | succeeds _ _ fault _ _ => exact fault

theorem step_halted (halted : c.fault = some fault) : c.step = (.error (.halted fault), c) := by
  simp only [step, halted]

/-- No other turn ends a fault. -/
theorem play_fault (halted : c.fault = some fault) {turn : Turn} (dead : ¬c.Revives turn)
    : (c.play turn).2.fault = some fault := by
  cases turn with
  | step => rw [play, step_halted halted]; exact halted
  | load saved =>
      cases outcome : ((load saved).perform c).1 with
      | ok _ => exact absurd outcome dead
      | error error => exact (load_fault (Prod.ext outcome rfl)).trans halted
  | reset => exact absurd trivial dead
  | _ => exact halted

/-- A turn that revives a console ends any fault. -/
theorem Revives.play_fault {turn : Turn} (revives : c.Revives turn)
    : (c.play turn).2.fault = none := by
  cases turn with
  | reset => rfl
  | load saved => exact load_fault (Prod.ext revives rfl)
  | _ => cases revives

theorem playAll_fault (halted : c.fault = some fault) {turns : List Turn}
    (dead : c.Unrevived turns)
    : (playAll turns c).2.fault = some fault := by
  induction turns generalizing c with
  | nil => exact halted
  | cons turn rest hypothesis => exact hypothesis (play_fault halted dead.1) dead.2

-----------------------------------------------------------------------------------------
-- The whole course of a fault
-----------------------------------------------------------------------------------------

/-- A step of a console without a fault fails just at an undefined opcode that it is to execute, and
every access up to there is answered. It leaves the machine in place, and the console refuses every
step, whatever else is done, until a reset or a load that succeeds.
-/
theorem step_fails_iff (wellFormed : c.WellFormed) (standard : c.memory.build.Standard)
    (healthy : c.fault = none)
    : (∀ error, c.step.1 = .error error
          ↔ c.Stumbles ∧ error = .undefinedOpcode c.obstacle)
        ∧ ((Cpu.Core.step Memory.guarded).run { c.core with memory := some c.memory }).2.memory
          = some c.worked.memory
        ∧ (c.Stumbles →
          c.Stranded c.obstacle c.step.2
            ∧ ∀ turns, c.step.2.Unrevived turns →
              (playAll turns c.step.2).2.step
                  = (.error (.halted c.obstacle), (playAll turns c.step.2).2)
                ∧ ∀ turn, (playAll turns c.step.2).2.Revives turn →
                  ((playAll turns c.step.2).2.play turn).2.fault = none) := by
  refine ⟨fun error => ⟨fun failed => ?_, ?_⟩, ?_, fun stumbles => ?_⟩
  · obtain ⟨stumbles, same, _⟩ := step_error healthy (Prod.ext failed rfl)
    exact ⟨stumbles, same⟩
  · rintro ⟨stumbles, rfl⟩
    exact stumbles.step_fst healthy
  · exact (Memory.step_guarded wellFormed.registers standard).2
  · have failed : c.step = (.error (.undefinedOpcode c.obstacle), c.step.2) :=
      Prod.ext (stumbles.step_fst healthy) rfl
    obtain ⟨_, _, left⟩ := step_error healthy failed
    have stranded : c.Stranded c.obstacle c.step.2 := by
      rw [left]
      exact stranded_keepFault c
    refine ⟨stranded, fun turns dead => ?_⟩
    have halted := playAll_fault stranded.fault dead
    exact ⟨step_halted halted, fun _ revives => revives.play_fault⟩

/-- A blank console that waits for interrupts, with the undefined opcode `0xD3` in the enable
register, which is to be executed next.
-/
def stumbling : Console :=
  { blank with
    core :=
      { blank.core with
        cpu.registers.pc := 0xFFFF
        cpu.halted := true
        interrupts := { enable := 0xD3, requests := 1 } } }

/-- The pending request ends its waiting, and then it fails for good. -/
theorem step_fails_iff_stumbling
    : stumbling.WellFormed ∧ stumbling.memory.build.Standard ∧ stumbling.fault = none
        ∧ stumbling.step.1 = .error (.undefinedOpcode { opcode := 0xD3, pc := 0xFFFF })
        ∧ stumbling.step.2.step.1 = .error (.halted { opcode := 0xD3, pc := 0xFFFF }) := by
  have formed : stumbling.WellFormed := by
    refine wellFormed_iff.mpr ⟨?_, ⟨by decide, by decide⟩, rfl, rfl, rfl, rfl⟩
    constructor <;> constructor <;> decide
  have standard : stumbling.memory.build.Standard := ⟨by decide, rfl, rfl, rfl, rfl⟩
  have stumbles : stumbling.Stumbles := ⟨rfl, rfl, by decide⟩
  have obstacle : stumbling.obstacle = { opcode := 0xD3, pc := 0xFFFF } := rfl
  obtain ⟨fails, _, course⟩ := step_fails_iff formed standard rfl
  obtain ⟨refused, _⟩ := (course stumbles).2 [] trivial
  rw [playAll] at refused
  rw [← obstacle]
  exact ⟨formed, standard, rfl, (fails _).mpr ⟨stumbles, rfl⟩, by rw [refused]⟩

end Console

end Handheld
