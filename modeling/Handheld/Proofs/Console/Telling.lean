import Handheld.Proofs.Console.Requests
import Handheld.Proofs.Console.Running
import Handheld.Proofs.Timer.Overflow

/-! What a trace tells about a run.
For every step there is a notice of what it has come to, made from the machine around it. The trace
of a run consists of the events of these notices, and the history of the run can be read off them.
-/

namespace Handheld

open Cpu (Core)

namespace Cpu.Core

/-- The source that the next step is to serve. -/
def called? {μ : Type} (core : Core μ) : Option Source :=
  if core.interrupts.master then core.interrupts.highest? else none

variable {core after : Core Memory} {cycles : Nat}

theorem called?_eq_none_iff : core.called? = none ↔ core.interrupted = false := by
  rw [called?, interrupted]
  cases core.interrupts.master with
  | false => simp
  | true => simp [Interrupts.highest?_eq_none_iff]

/-- The processor notes down the source that it was called by, and takes 20 cycles to serve it. -/
theorem Course.called (course : Course Memory.bus core (.ok cycles) after)
    : after.cpu.lastInterrupt = core.called?
        ∧ ∀ source, core.called? = some source → cycles = 20 := by
  cases course with
  | waits waiting =>
      have calm : core.interrupts.hasPending = false := by
        rw [Interrupts.hasPending, (idles_iff.mp waiting).2]
        rfl
      have none : core.called? = none := by
        rw [called?_eq_none_iff, interrupted, calm, Bool.and_false]
      rw [none]
      exact ⟨rfl, by simp⟩
  | @serves source called first =>
      have some : core.called? = some source := by
        rw [called?, (interrupted_iff.mp called).1, first]
        rfl
      rw [some]
      exact ⟨rfl, fun _ _ => rfl⟩
  | executes awake undisturbed found =>
      rw [called?_eq_none_iff.mpr undisturbed]
      exact ⟨congrArg (·.2.2) (executed_record found), by simp⟩

end Cpu.Core

/-- The source that a step was spent on, if it was one that served an interrupt. -/
def Cpu.Activity.served? : Cpu.Activity → Option Source
  | .service source => some source
  | _ => none

theorem Cpu.Activity.served?_ofNotes (instruction : Option Cpu.Instruction)
    (source : Option Source)
    : (ofNotes instruction source).served? = source := by
  cases source <;> cases instruction <;> rfl

namespace Console

variable {c d e : Console} {cycles : Nat} {turns : List Turn}

-----------------------------------------------------------------------------------------
-- Notices
-----------------------------------------------------------------------------------------

/-- What a step that has succeeded has come to. -/
structure Progress where
  clock : Int
  served : Option Source
  overflows : Nat
  tima : Byte
  /-- The mapped banks, if they are not those that were reported last. -/
  switched : Option (Int × Int)
  instructions : Int
  deriving DecidableEq

/-- What is to be told about a step. -/
inductive Notice
  | success (progress : Progress)
  | failure (fault : Cpu.Fault)
  deriving DecidableEq

namespace Notice

def clock? : Notice → Option Int
  | .success progress => some progress.clock
  | .failure _ => none

def served? : Notice → Option Source
  | .success progress => progress.served
  | .failure _ => none

def overflows : Notice → Nat
  | .success progress => progress.overflows
  | .failure _ => 0

def fault? : Notice → Option Cpu.Fault
  | .success _ => none
  | .failure fault => some fault

/-- The banks that have been reported last behind a notice, by those before it. -/
def report (last : Int × Int) : Notice → Int × Int
  | .success progress => progress.switched.getD last
  | .failure _ => last

/-- How a notice is told. -/
def events : Notice → List Trace.Event
  | .success progress =>
    [.clock (.int progress.clock)]
      ++ (progress.served.toList.map fun source =>
          .interrupt (.string source.name) (.int source.vector) (.int 20))
      ++ (if progress.overflows = 0 then []
          else [.overflow (.int progress.overflows) (.int progress.tima.value)])
      ++ (progress.switched.toList.map fun banks => .bankSwitch (.int banks.1) (.int banks.2))
      ++ Trace.Event.progress (.int progress.instructions) (.int progress.clock)
  | .failure fault => [.fault (.int fault.opcode.value) (.int fault.pc)]

end Notice

/-- What a step from `c` to `d` has come to that has taken some cycles. -/
def progress (c : Console) (cycles : Nat) (d : Console) : Progress where
  clock := d.clock.cycles
  served := c.core.called?
  overflows := (c.worked.memory.timer.pass cycles c.worked.interrupts).1
  tima := d.memory.timer.tima
  switched := if d.banks = c.announcedBanks then none else some d.banks
  instructions := d.cpu.instructionCount

/-- The notice of the next step. A step that is refused for an earlier fault gives none. -/
def notice? (c : Console) : Option Notice :=
  match c.step with
  | (.ok cycles, d) => some (.success (c.progress cycles d))
  | (.error (.undefinedOpcode fault), _) => some (.failure fault)
  | (.error _, _) => none

-----------------------------------------------------------------------------------------
-- What one step tells
-----------------------------------------------------------------------------------------

/-- All that is announced on the way from `c` to `d` are these notices, and they tell the truth. -/
structure Told (c : Console) (notices : List Notice) (d : Console) : Prop where
  onward : d.announcing = true
  outbox : d.outbox = (notices.flatMap Notice.events).reverse ++ c.outbox
  clocks : (notices.filterMap Notice.clock?).Pairwise (· < ·)
  span
    : c.clock.cycles ≤ d.clock.cycles
        ∧ ∀ clock ∈ notices.filterMap Notice.clock?, c.clock.cycles < clock ∧ clock ≤ d.clock.cycles
  overflows
    : d.memory.timer.overflows = c.memory.timer.overflows + (notices.map Notice.overflows).sum
  banks : notices.foldl Notice.report c.announcedBanks = d.announcedBanks
  /-- There is one fault at most. -/
  faults : c.fault.toList ++ notices.filterMap Notice.fault? = d.fault.toList

/-- What a host does between two steps is not told. -/
theorem told_nothing (announcing : c.announcing = true) {core : Core Memory} {stopRequested : Bool}
    (overflows : core.memory.timer.overflows = c.memory.timer.overflows)
    : c.Told [] { c with core, stopRequested } where
  onward := announcing
  outbox := rfl
  clocks := .nil
  span := ⟨Int.le_refl _, nofun⟩
  overflows := overflows.trans (Int.add_zero _).symm
  banks := rfl
  faults := List.append_nil _

theorem Told.refl (announcing : c.announcing = true) : c.Told [] c :=
  told_nothing announcing rfl

theorem Told.trans {first later : List Notice} (left : c.Told first d) (right : d.Told later e)
    : c.Told (first ++ later) e where
  onward := right.onward
  outbox := by
    rw [right.outbox, left.outbox]
    simp
  clocks := by
    rw [List.filterMap_append, List.pairwise_append]
    refine ⟨left.clocks, right.clocks, fun clock early clock' late => ?_⟩
    exact Int.lt_of_le_of_lt (left.span.2 clock early).2 (right.span.2 clock' late).1
  span := by
    refine ⟨left.span.1.trans right.span.1, fun clock told => ?_⟩
    rw [List.filterMap_append, List.mem_append] at told
    rcases told with early | late
    · exact ⟨(left.span.2 clock early).1, (left.span.2 clock early).2.trans right.span.1⟩
    · obtain ⟨behind, within⟩ := right.span.2 clock late
      exact ⟨Int.lt_of_le_of_lt left.span.1 behind, within⟩
  overflows := by
    rw [right.overflows, left.overflows, List.map_append, List.sum_append]
    omega
  banks := by
    rw [List.foldl_append, left.banks, right.banks]
  faults := by
    rw [List.filterMap_append, ← List.append_assoc, left.faults, right.faults]

/-- What is announced behind the timer is what a notice with the state there tells. -/
theorem stepEvents_eq {served : Option Source} (noted : d.cpu.lastInterrupt = served)
    (price : ∀ source, served = some source → cycles = 20) (overflows : Nat)
    : d.stepEvents cycles overflows
      = Notice.events (.success {
          clock := d.clock.cycles
          served
          overflows
          tima := d.memory.timer.tima
          switched := if d.banks = d.announcedBanks then none else some d.banks
          instructions := d.cpu.instructionCount }) := by
  have switched
      : (if d.banks ≠ d.announcedBanks then
          [Trace.Event.bankSwitch (.int d.banks.1) (.int d.banks.2)] else [])
        = ((if d.banks = d.announcedBanks then none else some d.banks).toList.map fun banks =>
            Trace.Event.bankSwitch (.int banks.1) (.int banks.2)) := by
    split <;> simp_all
  have overflowed
      : (if (overflows : Int) ≠ 0 then
          [Trace.Event.overflow (.int overflows) (.int d.memory.timer.tima.value)] else [])
        = if overflows = 0 then []
          else [Trace.Event.overflow (.int overflows) (.int d.memory.timer.tima.value)] := by
    split <;> simp_all
  rw [stepEvents, Notice.events, noted]
  dsimp only
  rw [switched, overflowed]
  cases served with
  | none => rfl
  | some source =>
      rw [price source rfl]
      rfl

/-- The events of a step that succeeds are those of its notice, and no banks are left unreported. -/
theorem step_announced (announcing : c.announcing = true) (stepped : c.step = (.ok cycles, d))
    : d.outbox = (Notice.success (c.progress cycles d)).events.reverse ++ c.outbox
        ∧ d.announcedBanks = d.banks := by
  obtain ⟨course, rfl⟩ := step_ok stepped
  obtain ⟨noted, price⟩ := course.called
  let ticked := tickTimer cycles { c with core := c.worked, clock := c.clock.after cycles }
  have counted : ticked.memory.timer.overflows - c.worked.memory.timer.overflows
      = (c.worked.memory.timer.pass cycles c.worked.interrupts).1 := by
    have raised : ticked.memory.timer.overflows
        = c.worked.memory.timer.overflows
          + (c.worked.memory.timer.pass cycles c.worked.interrupts).1 :=
      (c.worked.memory.timer.pass_raised cycles c.worked.interrupts).2
    omega
  have announced : announceStep cycles
        (ticked.memory.timer.overflows - c.worked.memory.timer.overflows) ticked
      = { ticked.announce (ticked.stepEvents cycles
            (ticked.memory.timer.overflows - c.worked.memory.timer.overflows)) with
          announcedBanks := ticked.banks } :=
    if_pos announcing
  rw [counted, stepEvents_eq (d := ticked) noted price, ← counted] at announced
  have concluded : conclude cycles { c with core := c.worked, clock := c.clock.after cycles } = _ :=
    announced
  rw [concluded]
  exact ⟨rfl, rfl⟩

theorem told_success (announcing : c.announcing = true) (stepped : c.step = (.ok cycles, d))
    : c.Told [.success (c.progress cycles d)] d := by
  obtain ⟨outbox, reported⟩ := step_announced announcing stepped
  obtain ⟨_, _, concluded⟩ := step_ok_eq stepped
  cases c.passing with
  | fails failed =>
      rw [stepped] at failed
      cases failed
  | succeeds _ before healthy least _ clock =>
      rw [stepped] at healthy clock
      dsimp only at healthy clock
      have forward : c.clock.cycles < d.clock.cycles := by omega
      have single : [Notice.success (c.progress cycles d)].filterMap Notice.clock?
          = [d.clock.cycles] := rfl
      constructor
      case onward =>
          rw [concluded]
          exact announcing
      case outbox => rw [outbox, List.flatMap_singleton]
      case clocks => exact List.pairwise_singleton _ _
      case span =>
          rw [single]
          refine ⟨forward.le, fun clock told => ?_⟩
          obtain rfl := List.mem_singleton.mp told
          exact ⟨forward, Int.le_refl _⟩
      case overflows =>
          have counted := (c.worked.memory.timer.pass_raised cycles c.worked.interrupts).2
          rw [concluded]
          refine counted.trans ?_
          rw [c.worked_overflows]
          rfl
      case banks =>
          rw [reported, List.foldl_cons, List.foldl_nil, Notice.report, progress]
          split
          case isTrue same => exact same.symm
          case isFalse => rfl
      case faults =>
          rw [before, healthy]
          rfl

theorem told_failure {fault : Cpu.Fault} (announcing : c.announcing = true)
    (stepped : c.step = (.error (.undefinedOpcode fault), d))
    : c.Told [.failure fault] d := by
  have overflows := c.worked_overflows
  rw [worked] at overflows
  cases c.stepping stepped with
  | @fails _ core healthy ran =>
      have kept : keepFault fault { c with core }
          = { c with
              core, fault := some fault
              outbox := (Notice.failure fault).events.reverse ++ c.outbox } :=
        if_pos announcing
      rw [ran] at overflows
      rw [kept]
      exact {
        onward := announcing
        outbox := rfl
        clocks := .nil
        span := ⟨Int.le_refl _, by simp [Notice.clock?]⟩
        overflows := overflows.trans (Int.add_zero _).symm
        banks := rfl
        faults := by
          rw [healthy]
          rfl }

theorem step_told (announcing : c.announcing = true) : c.Told c.notice?.toList c.step.2 := by
  rcases stepped : c.step with ⟨outcome, d⟩
  rw [notice?, stepped]
  cases outcome with
  | ok cycles => exact told_success announcing stepped
  | error error =>
      cases c.stepping stepped with
      | halted faulted => exact .refl announcing
      | fails => exact told_failure announcing stepped

/-- A step that fails neither maps banks nor reports any, and no step succeeds after it. -/
theorem step_failed {error : Error} (failed : c.step.1 = .error error)
    : c.step.2.banks = c.banks ∧ c.step.2.announcedBanks = c.announcedBanks
        ∧ ∃ refusal, c.step.2.step.1 = .error refusal := by
  have course := Core.course Memory.bus c.core
  have stepped : c.step = (.error error, c.step.2) := Prod.ext failed rfl
  generalize c.step.2 = d at stepped ⊢
  cases c.stepping stepped with
  | halted faulted => exact ⟨rfl, rfl, _, failed⟩
  | @fails fault core healthy ran =>
      obtain ⟨outbox, kept⟩ := keepFault_eq fault { c with core }
      rw [kept]
      rw [ran] at course
      cases course with
      | faults awake undisturbed found =>
          obtain rfl := (Core.fetch_bus_error found).2.2
          exact ⟨rfl, rfl, _, rfl⟩

/-- Nor do any steps after one that fails. -/
theorem after_failed {error : Error} (failed : c.step.1 = .error error) (k : Nat)
    : (c.after k).banks = c.banks ∧ (c.after k).announcedBanks = c.announcedBanks := by
  induction k generalizing c error with
  | zero => exact ⟨rfl, rfl⟩
  | succ k hypothesis =>
      obtain ⟨banks, announced, _, refused⟩ := step_failed failed
      obtain ⟨banks', announced'⟩ := hypothesis refused
      exact ⟨banks'.trans banks, announced'.trans announced⟩

/-- Nothing remains to be reported behind a step if nothing did before it. -/
theorem step_reported (announcing : c.announcing = true) (reported : c.announcedBanks = c.banks)
    : c.step.2.announcedBanks = c.step.2.banks := by
  cases outcome : c.step.1 with
  | ok cycles => exact (step_announced announcing (Prod.ext outcome rfl)).2
  | error error =>
      obtain ⟨banks, announced, _⟩ := step_failed outcome
      exact announced.trans (reported.trans banks.symm)

theorem after_reported (announcing : c.announcing = true) (reported : c.announcedBanks = c.banks)
    (k : Nat)
    : (c.after k).announcedBanks = (c.after k).banks := by
  induction k generalizing c with
  | zero => exact reported
  | succ k hypothesis =>
      exact hypothesis (step_told announcing).onward (step_reported announcing reported)

/-- The source that the next step serves, by what it notes down. -/
def dispatched? (c : Console) : Option Source :=
  match c.step with
  | (.ok _, d) => d.cpu.activity.served?
  | (.error _, _) => none

theorem notice?_served (c : Console) : c.notice?.bind Notice.served? = c.dispatched? := by
  rcases stepped : c.step with ⟨outcome, d⟩
  rw [notice?, dispatched?, stepped]
  cases outcome with
  | ok cycles =>
      obtain ⟨_, _, rfl⟩ := step_ok_eq stepped
      have noted : c.worked.cpu.lastInterrupt = c.core.called? := (step_ok stepped).1.called.1
      exact noted.symm.trans (Cpu.Activity.served?_ofNotes _ _).symm
  | error error => cases error <;> rfl

-----------------------------------------------------------------------------------------
-- What a run tells
-----------------------------------------------------------------------------------------

/-- The console before a turn, if the turn is a step. -/
def before (c : Console) : Turn → List Console
  | .step => [c]
  | _ => []

/-- The console before every step among some turns. -/
def befores (c : Console) : List Turn → List Console
  | [] => []
  | turn :: rest => c.before turn ++ (c.play turn).2.befores rest

/-- The notices of all steps among some turns. -/
def notices (c : Console) (turns : List Turn) : List Notice :=
  (c.befores turns).filterMap notice?

theorem play_told (announcing : c.announcing = true) {turn : Turn} (kept : turn ≠ .reset)
    (own : ∀ saved, turn ≠ .load saved)
    : c.Told ((c.before turn).filterMap notice?) (c.play turn).2 := by
  cases turn with
  | step =>
      have single : (c.before .step).filterMap notice? = c.notice?.toList := by
        rw [before, List.filterMap_cons]
        cases c.notice? <;> rfl
      rw [single]
      exact step_told announcing
  | write address value => exact told_nothing announcing (write_overflows _ address value _)
  | reset => exact absurd rfl kept
  | load saved => exact absurd rfl (own saved)
  | read | interrupt | press | release | releaseAll | requestStop =>
      exact told_nothing announcing rfl

theorem playAll_told (announcing : c.announcing = true) (kept : .reset ∉ turns)
    (own : ∀ saved, .load saved ∉ turns)
    : c.Told (c.notices turns) (playAll turns c).2 := by
  induction turns generalizing c with
  | nil => exact .refl announcing
  | cons turn rest hypothesis =>
      have first : c.Told ((c.before turn).filterMap notice?) (c.play turn).2 :=
        play_told announcing (fun same => kept (same ▸ List.mem_cons_self))
          fun saved same => own saved (same ▸ List.mem_cons_self)
      have later := hypothesis first.onward (fun among => kept (List.mem_cons_of_mem turn among))
        fun saved among => own saved (List.mem_cons_of_mem turn among)
      rw [notices, befores, List.filterMap_append]
      exact first.trans later

theorem playAll_append (first later : List Turn) (c : Console)
    : (playAll (first ++ later) c).2 = (playAll later (playAll first c).2).2 := by
  induction first generalizing c with
  | nil => rfl
  | cons turn rest hypothesis => exact hypothesis (c.play turn).2

theorem playAll_replicate (k : Nat) (c : Console)
    : (playAll (List.replicate k .step) c).2 = c.after k := by
  induction k generalizing c with
  | zero => rfl
  | succ k hypothesis => exact hypothesis c.step.2

/-- Among mere steps there is neither a reset nor a load. -/
theorem notMem_steps (k : Nat)
    : .reset ∉ List.replicate k Turn.step ∧ ∀ saved, .load saved ∉ List.replicate k Turn.step :=
  ⟨fun among => (nomatch List.eq_of_mem_replicate among),
    fun _ among => (nomatch List.eq_of_mem_replicate among)⟩

/-- The trace of some turns tells exactly what has happened in the steps among them. -/
structure Tells (c : Console) (turns : List Turn) : Prop where
  outbox
    : (playAll turns c).2.outbox = ((c.notices turns).flatMap Notice.events).reverse ++ c.outbox
  clocks : ((c.notices turns).filterMap Notice.clock?).Pairwise (· < ·)
  overflows
    : ((c.notices turns).map Notice.overflows).sum
      = (playAll turns c).2.memory.timer.overflows - c.memory.timer.overflows
  dispatches : (c.notices turns).filterMap Notice.served? = (c.befores turns).filterMap dispatched?
  /-- The first fault is told, if there was none before, and no other. -/
  faults
    : c.fault.toList ++ (c.notices turns).filterMap Notice.fault? = (playAll turns c).2.fault.toList
  /-- Notices compare the mapped banks with those that have been reported last. -/
  banks
    : (c.notices turns).foldl Notice.report c.announcedBanks = (playAll turns c).2.announcedBanks
  /-- The banks reported last are those mapped after every step, just if the first one succeeds or they
  have been reported before. A step that fails reports none.
  -/
  mapped
    : ∀ k,
        (c.notices (turns ++ List.replicate (k + 1) .step)).foldl Notice.report c.announcedBanks
            = ((playAll turns c).2.after (k + 1)).banks
          ↔ (∃ cycles, (playAll turns c).2.step.1 = .ok cycles)
            ∨ (playAll turns c).2.announcedBanks = (playAll turns c).2.banks

/-- Whatever a host does between the steps, short of a reset or a load, their trace tells the run.
-/
theorem playAll_tells (announcing : c.announcing = true) (kept : .reset ∉ turns)
    (own : ∀ saved, .load saved ∉ turns)
    : c.Tells turns := by
  have told := playAll_told announcing kept own
  constructor
  case outbox => exact told.outbox
  case clocks => exact told.clocks
  case overflows =>
    have counted := told.overflows
    omega
  case dispatches =>
    rw [notices, List.filterMap_filterMap]
    exact List.filterMap_congr fun before _ => before.notice?_served
  case faults => exact told.faults
  case banks => exact told.banks
  case mapped =>
    intro k
    obtain ⟨resets, loads⟩ := notMem_steps (k + 1)
    have longer : c.Told (c.notices (turns ++ List.replicate (k + 1) .step)) _ :=
      playAll_told announcing (List.not_mem_append kept resets)
        fun saved => List.not_mem_append (own saved) (loads saved)
    rw [longer.banks, playAll_append, playAll_replicate]
    cases outcome : (playAll turns c).2.step.1 with
    | ok cycles =>
        have first := (step_announced told.onward (Prod.ext outcome rfl)).2
        exact iff_of_true (after_reported (step_told told.onward).onward first k) (.inl ⟨cycles, rfl⟩)
    | error error =>
        obtain ⟨banks, announced⟩ := after_failed outcome (k + 1)
        rw [banks, announced]
        exact ⟨.inr, fun start => start.resolve_left fun ⟨_, ok⟩ => nomatch ok⟩

/-- A blank console that announces its steps. Its counter overflows with every increment. -/
def talking : Console :=
  { blank with
    announcing := true
    core :=
      { blank.core with
        interrupts := { enable := 1, master := true }
        memory.timer := { tima := 0xFF, tma := 0xFF, tac := 5, prescaler := 12 } } }

/-- The step that serves the request of a host lasts for two overflows. -/
theorem playAll_tells_talking
    : let turns : List Turn := [.interrupt .vblank, .step]
      talking.Tells turns ∧ (talking.notices turns).filterMap Notice.clock? = [20]
        ∧ (talking.notices turns).filterMap Notice.served? = [.vblank]
        ∧ ((talking.notices turns).map Notice.overflows).sum = 2
        ∧ (talking.notices turns).foldl Notice.report (-1, -1) = (1, 0) := by
  intro turns
  have tells : talking.Tells turns := playAll_tells rfl (by simp [turns]) (by simp [turns])
  have clocks : (talking.notices turns).filterMap Notice.clock? = [20] := by decide +kernel
  have served : (talking.befores turns).filterMap dispatched? = [.vblank] := by decide +kernel
  have overflows : (playAll turns talking).2.memory.timer.overflows
      - talking.memory.timer.overflows = 2 := by
    decide +kernel
  have mapped : (playAll turns talking).2.announcedBanks = (1, 0) := by decide +kernel
  refine ⟨tells, clocks, tells.dispatches.trans served, ?_, tells.banks.trans mapped⟩
  have sum := tells.overflows.trans overflows
  omega

/-- A console that announces its steps and meets an undefined opcode, which its timer shows, in the
first one.
-/
def faltering : Console :=
  { blank with
    announcing := true
    core :=
      { blank.core with
        cpu.registers.pc := 0xFF05
        memory.timer := { tima := 0xD3 } } }

/-- Its trace has nothing but a fault, however long it runs, and never tells which banks are mapped.
-/
theorem notices_faltering
    : faltering.announcing = true ∧ faltering.notices [.step] = [.failure ⟨0xD3, 0xFF05⟩]
        ∧ ∀ k, (faltering.notices (List.replicate (k + 1) .step)).foldl Notice.report (-1, -1)
            ≠ (faltering.after (k + 1)).banks := by
  refine ⟨rfl, by decide +kernel, fun k => ?_⟩
  obtain ⟨resets, loads⟩ := notMem_steps (k + 1)
  have told : faltering.Told (faltering.notices (List.replicate (k + 1) .step)) _ :=
    playAll_told rfl resets loads
  have without : faltering.step.1.toOption = none := by decide +kernel
  obtain ⟨error, failed⟩ : ∃ error, faltering.step.1 = .error error := by
    cases outcome : faltering.step.1 with
    | ok cycles => cases outcome ▸ without
    | error error => exact ⟨error, rfl⟩
  obtain ⟨mapped, announced⟩ := after_failed failed (k + 1)
  have reported : (faltering.notices (List.replicate (k + 1) .step)).foldl Notice.report (-1, -1)
      = (-1, -1) := by
    refine told.banks.trans ?_
    rw [playAll_replicate, announced]
    rfl
  rw [reported, mapped]
  decide

end Console

end Handheld
