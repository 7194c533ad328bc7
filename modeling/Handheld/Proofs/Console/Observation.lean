import Handheld.Proofs.Console.Refusal
import Handheld.Proofs.Console.Twins
import Handheld.Report.Console

/-! Those who watch leave no trace.
Whoever follows the events, switches the access logs or looks into a console changes nothing but
what serves them. The machine goes on as it would have gone on alone, unless someone fails to take an
event, which ends the run that the event came from.
-/

namespace Handheld

-----------------------------------------------------------------------------------------
-- Memories without their logs
-----------------------------------------------------------------------------------------

/-- A memory with its access logs taken out. -/
def Memory.unlogged (m : Memory) : Memory :=
  { m with log := { enabled := false, reads := { limit := none }, writes := { limit := none } } }

namespace Memory

theorem unlogged_get (m : Memory) (interrupts : Interrupts) (place : Place)
    : m.unlogged.get interrupts place = m.get interrupts place := by
  cases place <;> rfl

theorem unlogged_set (m : Memory) (place : Place) (value : Byte) (interrupts : Interrupts)
    : (m.unlogged.set place value interrupts).1 = (m.set place value interrupts).1
        ∧ (m.unlogged.set place value interrupts).2.unlogged
          = (m.set place value interrupts).2.unlogged := by
  cases place <;> exact ⟨rfl, rfl⟩

theorem unlogged_read (m : Memory) (address : Int) (interrupts : Interrupts)
    : (m.unlogged.read address interrupts).1 = (m.read address interrupts).1
        ∧ (m.unlogged.read address interrupts).2.unlogged
          = (m.read address interrupts).2.unlogged :=
  ⟨m.unlogged_get interrupts _, rfl⟩

theorem unlogged_write (m : Memory) (address value : Int) (interrupts : Interrupts)
    : (m.unlogged.write address value interrupts).1 = (m.write address value interrupts).1
        ∧ (m.unlogged.write address value interrupts).2.unlogged
          = (m.write address value interrupts).2.unlogged := by
  let noted (m : Memory) : Memory :=
    { m with
      writeCount := m.writeCount + 1
      log := m.log.noteWrite (Address.ofInt address) (Byte.ofInt value) }
  -- Without their logs, what both memories have noted is the same.
  obtain ⟨left, leftAfter⟩ := (noted m.unlogged).unlogged_set
    (place (Address.ofInt address)) (Byte.ofInt value) interrupts
  obtain ⟨right, rightAfter⟩ := (noted m).unlogged_set
    (place (Address.ofInt address)) (Byte.ofInt value) interrupts
  exact ⟨left.symm.trans right, leftAfter.symm.trans rightAfter⟩

/-- No access tells memories apart that differ in their logs alone. -/
theorem unlogged_congruence : Congruence fun m n => m.unlogged = n.unlogged where
  read := by
    intro m n same address interrupts
    obtain ⟨left, leftAfter⟩ := m.unlogged_read address interrupts
    obtain ⟨right, rightAfter⟩ := n.unlogged_read address interrupts
    rw [← left, ← leftAfter, ← right, ← rightAfter, same]
    exact ⟨rfl, rfl⟩
  write := by
    intro m n same address value interrupts
    obtain ⟨left, leftAfter⟩ := m.unlogged_write address value interrupts
    obtain ⟨right, rightAfter⟩ := n.unlogged_write address value interrupts
    rw [← left, ← leftAfter, ← right, ← rightAfter, same]
    exact ⟨rfl, rfl⟩
  timer {m n} same := by
    have timer : m.unlogged.timer = n.unlogged.timer := by rw [same]
    exact timer
  setTimer same timer := congrArg (fun m : Memory => { m with timer }) same
  joypad {m n} same := by
    have joypad : m.unlogged.peripherals.joypad = n.unlogged.peripherals.joypad := by rw [same]
    exact joypad
  setJoypad same joypad :=
    congrArg (fun m : Memory => m.onPeripherals fun p => { p with joypad }) same
  powerOn {m n} same := by
    have powered : (Console.powerOnMemory m.unlogged).unlogged
        = (Console.powerOnMemory n.unlogged).unlogged := by rw [same]
    exact powered

end Memory

namespace Console

theorem Limits.later_zero (limits : Limits) : limits.later 0 = limits := by
  obtain ⟨steps, goal⟩ := limits
  simp [later]

theorem Operation.later_zero (operation : Operation) : operation.later 0 = operation := by
  cases operation with
  | run limits => rw [later, limits.later_zero]
  | runUntil goal => rw [later, Int.add_zero]
  | _ => rfl

-----------------------------------------------------------------------------------------
-- Machines without those who watch
-----------------------------------------------------------------------------------------

/-- The machine in a console: what is left without logs and without anything that tracing needs. -/
def bare (c : Console) : Console :=
  { c.onMemory Memory.unlogged with
    announcing := false
    ownsTrace := false
    announcedBanks := (-1, -1)
    outbox := [] }

variable {c d : Console}

/-- Whatever is part of the machine is the same in consoles with the same machine in them. -/
theorem part_of_bare {α : Type} (same : c.bare = d.bare) (get : Console → α)
    : get c.bare = get d.bare :=
  congrArg get same

/-- Consoles with the same machine in them are twins. -/
theorem twins_of_bare (same : c.bare = d.bare)
    : Twins (fun m n => m.unlogged = n.unlogged) 0 c d where
  cpu := part_of_bare same Console.cpu
  interrupts := part_of_bare same Console.interrupts
  memory := part_of_bare same Console.memory
  fault := part_of_bare same Console.fault
  stopRequested := part_of_bare same Console.stopRequested
  clock := (part_of_bare same fun console => console.clock.cycles).trans (Int.add_zero _).symm

theorem Twins.bare (twins : Twins (fun m n => m.unlogged = n.unlogged) 0 c d)
    (settings : c.settings = d.settings) (cycleOffset : c.cycleOffset = d.cycleOffset)
    : c.bare = d.bare := by
  have inside (c : Console) : c.bare =
      { core := { cpu := c.cpu, interrupts := c.interrupts, memory := c.memory.unlogged }
        clock := c.clock
        settings := c.settings
        fault := c.fault
        stopRequested := c.stopRequested
        cycleOffset := c.cycleOffset } := rfl
  have clock : c.clock = d.clock := congrArg Clock.mk (twins.clock.trans (Int.add_zero _))
  rw [inside c, inside d, twins.cpu, twins.interrupts, twins.memory, clock, settings, twins.fault,
    twins.stopRequested, cycleOffset]

/-- No operation touches the settings, or the place of the time line on the clock. -/
theorem operate_keeps (operation : Operation) (c : Console)
    : (c.operate operation).2.settings = c.settings
        ∧ (c.operate operation).2.cycleOffset = c.cycleOffset := by
  have step {d : Console} (kept : d.settings = c.settings ∧ d.cycleOffset = c.cycleOffset)
      : d.step.2.settings = c.settings ∧ d.step.2.cycleOffset = c.cycleOffset := by
    generalize stepped : d.step = behind
    obtain ⟨outcome, after⟩ := behind
    cases d.stepping stepped with
    | halted _ => exact kept
    | @fails fault core _ _ =>
        obtain ⟨_, failed⟩ := keepFault_eq fault { d with core }
        rw [failed]
        exact kept
    | @succeeds cycles core _ _ =>
        obtain ⟨_, _, concluded⟩ :=
          conclude_eq cycles { d with core, clock := d.clock.after cycles }
        rw [concluded]
        exact kept
  have run (limits : Limits) : (c.run limits).2.settings = c.settings
      ∧ (c.run limits).2.cycleOffset = c.cycleOffset :=
    runFrom_keeps (I := fun d => d.settings = c.settings ∧ d.cycleOffset = c.cycleOffset)
      step id limits _ 0 ⟨rfl, rfl⟩
  cases operation with
  | step => exact step ⟨rfl, rfl⟩
  | run limits => exact run limits
  | runUntil goal | runFor cycles => exact run _
  | _ => exact ⟨rfl, rfl⟩

/-- The same machine gives the same result, and is the same machine behind it. -/
theorem operate_bare (same : c.bare = d.bare) (operation : Operation)
    : (c.operate operation).1 = (d.operate operation).1
        ∧ (c.operate operation).2.bare = (d.operate operation).2.bare := by
  obtain ⟨result, twins⟩ := (twins_of_bare same).operate Memory.unlogged_congruence operation
  rw [operation.later_zero] at result twins
  obtain ⟨settings, cycleOffset⟩ := operate_keeps operation c
  obtain ⟨settings', cycleOffset'⟩ := operate_keeps operation d
  refine ⟨result, twins.bare ?_ ?_⟩
  · rw [settings, settings']
    exact part_of_bare same Console.settings
  · rw [cycleOffset, cycleOffset']
    exact part_of_bare same Console.cycleOffset

-----------------------------------------------------------------------------------------
-- Looks
-----------------------------------------------------------------------------------------

/-- What a host does to follow a console or to look into it. -/
inductive Look
  | announce (on : Bool)
  | startTracing (path : Json)
  | stopTracing
  | enableLog (limit : Option Int)
  | disableLog
  | clearLog
  | peek (address : Int)
  | devices
  | cpuState
  | capture
  | standing (executed : Json) (metadata : List (Text × Json))
  | externalRam
  | save (created : String)

/-- What a look shows. -/
inductive Sight
  | done (outcome : Except Error Unit)
  | bytes (bytes : List Byte)
  | report (report : Except Misfit Json)
  | state (state : State)
  | standing (standing : Standing)
  | bundle (bundle : Except Error Bundle)

/-- Changes the access logs. -/
def onLog (change : Memory.AccessLog → Memory.AccessLog) : Console → Console :=
  onMemory fun memory => { memory with log := change memory.log }

/-- Takes a look. -/
def look (look : Look) (console : Console) : Sight × Console :=
  match look with
  | .announce on => (.done (.ok ()), { console with announcing := on })
  | .startTracing path =>
    (.done ((startTracing path).perform console).1, ((startTracing path).perform console).2)
  | .stopTracing => (.done (.ok ()), console.stopTracing)
  | .enableLog limit =>
    (.done ((Memory.AccessLog.enable limit).perform console.memory.log).1,
      console.onLog fun log => ((Memory.AccessLog.enable limit).perform log).2)
  | .disableLog => (.done (.ok ()), console.onLog Memory.AccessLog.disable)
  | .clearLog => (.done (.ok ()), console.onLog Memory.AccessLog.clear)
  | .peek address => (.bytes [console.memory.peek console.interrupts address], console)
  | .devices => (.bytes (console.memory.devices console.interrupts), console)
  | .cpuState => (.report (Report.cpuState { console }), console)
  | .capture => (.state console.capture, console)
  | .standing executed metadata => (.standing (Scenario.standing executed metadata console), console)
  | .externalRam => (.bytes console.cartridge.ram.toList, console)
  | .save created => (.bundle (console.save created), console)

theorem look_bare (look : Look) (c : Console) : (c.look look).2.bare = c.bare := by
  cases look with
  | startTracing path => cases path <;> rfl
  | stopTracing =>
      rw [Console.look, Console.stopTracing]
      dsimp only
      split <;> rfl
  | _ => rfl

-----------------------------------------------------------------------------------------
-- A machine before an audience
-----------------------------------------------------------------------------------------

/-- A console, and the state of everyone who follows its events. -/
structure Watched (ω : Type) where
  console : Console
  audience : ω

/-- What a host does to a machine before an audience. -/
inductive Deed
  | operation (operation : Operation)
  | look (look : Look)

namespace Watched

variable {ω : Type} (hear : Trace.Event → Attempt ω Unit)

/-- Tells the audience of one event after the other. A failure comes back with the events that are
left untold.
-/
def tell : List Trace.Event → ω → Option (Error × List Trace.Event) × ω
  | [], audience => (none, audience)
  | event :: rest, audience =>
    match (hear event).perform audience with
    | (.ok _, audience) => tell rest audience
    | (.error error, audience) => (some (error, rest), audience)

/-- Delivers what the console has announced, in order. The banks that were reported before remain those
reported last if their switch is left untold. No other events belong to the cartridge.
-/
def deliver (reported : Int × Int) (watched : Watched ω) : Except Error Unit × Watched ω :=
  let console := { watched.console with outbox := [] }
  match tell hear watched.console.outbox.reverse watched.audience with
  | (none, audience) => (.ok (), { console, audience })
  | (some (error, untold), audience) =>
    let switches := untold.any fun event => event.thread.same (.string Trace.Track.cartridge.name)
    let announcedBanks := if switches then reported else console.announcedBanks
    (.error error, { console := { console with announcedBanks }, audience })

/-- Takes a step and delivers what it announces. The failure of someone in the audience takes the
place of whatever the step has come to.
-/
def step (watched : Watched ω) : Except Error Nat × Watched ω :=
  let (outcome, console) := watched.console.step
  match deliver hear watched.console.announcedBanks { watched with console } with
  | (.ok _, delivered) => (outcome, delivered)
  | (.error error, delivered) => (.error error, delivered)

/-- A console takes its steps before the audience. -/
def runner : Runner (Watched ω) where
  console := Watched.console
  onConsole change watched := { watched with console := change watched.console }
  step := step hear

/-- Carries out an operation. Only steps are announced. -/
def operate (operation : Operation) (watched : Watched ω) : Result × Watched ω :=
  match operation with
  | .step => (.steps (watched.step hear).1, (watched.step hear).2)
  | .run limits =>
    (.steps ((runner hear).run limits watched).1, ((runner hear).run limits watched).2)
  | .runUntil goal =>
    (.cycles ((runner hear).runUntil goal watched).1, ((runner hear).runUntil goal watched).2)
  | .runFor cycles =>
    let goal := watched.console.clock.cycles + cycles
    (.cycles ((runner hear).runUntil goal watched).1, ((runner hear).runUntil goal watched).2)
  | operation =>
    ((watched.console.operate operation).1,
      { watched with console := (watched.console.operate operation).2 })

/-- Takes a look and delivers what it announces. A trace is still there if someone fails to take its
end.
-/
def look (look : Look) (watched : Watched ω) : Sight × Watched ω :=
  let (sight, console) := watched.console.look look
  match deliver hear watched.console.announcedBanks { watched with console } with
  | (.ok _, delivered) => (sight, delivered)
  | (.error error, delivered) =>
    let left :=
      match look with
      | .stopTracing => { watched.console with outbox := [] }
      | _ => delivered.console
    (.done (.error error), { delivered with console := left })

/-- Does one thing after the other. Only the results of operations are kept. -/
def doAll : List Deed → Watched ω → List Result × Watched ω
  | [], watched => ([], watched)
  | .operation operation :: rest, watched =>
    let (result, watched) := operate hear operation watched
    let (results, watched) := doAll rest watched
    (result :: results, watched)
  | .look look :: rest, watched => doAll rest (watched.look hear look).2

end Watched

/-- The operations among the things that a host does. -/
def Deed.operations : List Deed → List Operation :=
  List.filterMap fun
    | .operation done => some done
    | .look _ => none

namespace Watched

variable {ω : Type} {hear : Trace.Event → Attempt ω Unit} {watched : Watched ω}

-----------------------------------------------------------------------------------------
-- What an audience can do to the machine
-----------------------------------------------------------------------------------------

variable (hear) in
/-- No delivery touches the machine. -/
theorem deliver_bare (reported : Int × Int) (watched : Watched ω)
    : (deliver hear reported watched).2.console.bare = watched.console.bare := by
  rw [deliver]
  dsimp only
  split <;> rfl

/-- Whoever fails to take an event, a step leaves the machine that it leaves without an audience. -/
theorem step_bare (watched : Watched ω)
    : (watched.step hear).2.console.bare = watched.console.step.2.bare := by
  have delivered := deliver_bare hear watched.console.announcedBanks
    { watched with console := watched.console.step.2 }
  rw [step]
  dsimp only
  split
  all_goals
    rename_i same
    rw [same] at delivered
    exact delivered

theorem look_bare (look : Look) (watched : Watched ω)
    : (watched.look hear look).2.console.bare = watched.console.bare := by
  have delivered := deliver_bare hear watched.console.announcedBanks
    { watched with console := (watched.console.look look).2 }
  rw [Console.look_bare] at delivered
  rw [Watched.look]
  dsimp only
  split
  all_goals
    rename_i same
    rw [same] at delivered
  · exact delivered
  · split
    · rfl
    · exact delivered

/-- An audience in which nobody fails to take an event. -/
def Composed (hear : Trace.Event → Attempt ω Unit) : Prop :=
  ∀ event audience, ((hear event).perform audience).1 = .ok ()

namespace Composed

variable (composed : Composed hear)
include composed

theorem tell (events : List Trace.Event) (audience : ω)
    : (Watched.tell hear events audience).1 = none := by
  induction events generalizing audience with
  | nil => rfl
  | cons event rest hypothesis =>
      have taken : (hear event).perform audience = (.ok (), ((hear event).perform audience).2) :=
        Prod.ext (composed event audience) rfl
      rw [Watched.tell, taken]
      exact hypothesis _

theorem deliver (reported : Int × Int) (watched : Watched ω)
    : (Watched.deliver hear reported watched).1 = .ok () := by
  have told := composed.tell watched.console.outbox.reverse watched.audience
  rw [Watched.deliver]
  dsimp only
  split
  · rfl
  · rename_i failed
    rw [failed] at told
    cases told

/-- A step comes to what it comes to without an audience. -/
theorem step (watched : Watched ω) : (watched.step hear).1 = watched.console.step.1 := by
  have delivered := composed.deliver watched.console.announcedBanks
    { watched with console := watched.console.step.2 }
  rw [Watched.step]
  dsimp only
  split
  · rfl
  · rename_i failed
    rw [failed] at delivered
    cases delivered

/-- A console before such an audience runs alongside one that has the same machine in it. -/
theorem alongside
    : (runner hear).Alongside Console.runner 0 fun watched c => watched.console.bare = c.bare where
  clock same := (part_of_bare same fun c => c.clock.cycles).trans (Int.add_zero _).symm
  stopRequested same := part_of_bare same Console.stopRequested
  stop same := part_of_bare same fun c => { c with stopRequested := false }
  step {watched c} same := by
    obtain ⟨result, next⟩ := operate_bare same .step
    exact ⟨(composed.step watched).trans (Result.steps.inj result), (step_bare watched).trans next⟩

/-- An operation has the same result, and leaves the same machine. -/
theorem operate {c : Console} (same : watched.console.bare = c.bare) (operation : Operation)
    : (watched.operate hear operation).1 = (c.operate operation).1
        ∧ (watched.operate hear operation).2.console.bare = (c.operate operation).2.bare := by
  have elapse (goal : Int) := composed.alongside.elapse same { goal := some goal }
  simp only [Limits.later_zero] at elapse
  cases operation with
  | step =>
      obtain ⟨outcome, next⟩ := composed.alongside.step same
      exact ⟨congrArg Result.steps outcome, next⟩
  | run limits =>
      have ran := composed.alongside.run same limits
      rw [limits.later_zero] at ran
      exact ran.imp_left (congrArg Result.steps)
  | runUntil goal => exact (elapse goal).imp_left (congrArg Result.cycles)
  | runFor cycles =>
      have clock : watched.console.clock = c.clock := part_of_bare same fun c => c.clock
      rw [Watched.operate, Console.operate, clock]
      exact (elapse (c.clock.cycles + cycles)).imp_left (congrArg Result.cycles)
  | _ => exact operate_bare same _

end Composed

/-- A machine that is the same behind the curtain does the same before an audience. -/
theorem doAll_bare (composed : Composed hear) (deeds : List Deed) {c : Console}
    (same : watched.console.bare = c.bare)
    : (watched.doAll hear deeds).1 = (operateAll (Deed.operations deeds) c).1
        ∧ (watched.doAll hear deeds).2.console.bare
          = (operateAll (Deed.operations deeds) c).2.bare := by
  induction deeds generalizing c watched with
  | nil => exact ⟨rfl, same⟩
  | cons deed rest hypothesis =>
      cases deed with
      | look look => exact hypothesis ((look_bare look watched).trans same)
      | operation operation =>
          obtain ⟨result, next⟩ := composed.operate same operation
          obtain ⟨results, after⟩ := hypothesis next
          exact ⟨List.cons_eq_cons.mpr ⟨result, results⟩, after⟩

/-- Whoever watches and whatever they look at, the operations have the same results as without them,
and the machine is the same behind them, if nobody fails to take an event.
-/
theorem doAll_undisturbed (composed : Composed hear) (deeds : List Deed) (c : Console)
    (audience : ω)
    : (doAll hear deeds { console := c, audience }).1 = (operateAll (Deed.operations deeds) c).1
        ∧ (doAll hear deeds { console := c, audience }).2.console.bare
          = (operateAll (Deed.operations deeds) c).2.bare :=
  doAll_bare composed deeds rfl

/-- Follows a console by counting its events. -/
def count (_ : Trace.Event) : Attempt Nat Unit :=
  modify (· + 1)

/-- A console that announces its steps, with nothing to do in the high memory. -/
def attended : Console :=
  { blank with announcing := true, core := { blank.core with cpu.registers.pc := 0xFF80 } }

/-- A host that takes three steps and looks into the console before, between and after them. -/
def visit : List Deed := [
  .look (.startTracing (.string "trace")),
  .operation .step,
  .look (.enableLog (some 4)),
  .look (.peek 0xFF05),
  .operation (.run { steps := some 2 }),
  .look .capture]

/-- Someone who counts hears of the start, and in every step of the time and of the progress. The first
step reports the mapped banks as well.
-/
theorem doAll_undisturbed_counted
    : Composed count
        ∧ (doAll count visit ⟨attended, 0⟩).1
          = (operateAll [.step, .run { steps := some 2 }] attended).1
        ∧ (doAll count visit ⟨attended, 0⟩).2.console.bare
          = (operateAll [.step, .run { steps := some 2 }] attended).2.bare
        ∧ (doAll count visit ⟨attended, 0⟩).2.audience = 12 := by
  have composed : Composed count := fun _ _ => rfl
  obtain ⟨results, machine⟩ := doAll_undisturbed composed visit attended 0
  exact ⟨composed, results, machine, by decide +kernel⟩

/-- Fails to take any event. -/
def refuse (_ : Trace.Event) : Attempt Unit Unit :=
  throw (.misfit .unreadable)

/-- A run that is refused by its audience fails after its first step. Without an audience it goes on to
the end.
-/
theorem doAll_refused
    : let deeds : List Deed := [.operation (.run { steps := some 2 })]
      (doAll refuse deeds ⟨attended, ()⟩).1 ≠ (operateAll (Deed.operations deeds) attended).1
        ∧ (doAll refuse deeds ⟨attended, ()⟩).2.console.clock.cycles = 4
        ∧ (operateAll (Deed.operations deeds) attended).2.clock.cycles = 8 := by
  refine ⟨fun same => ?_, by decide +kernel, by decide +kernel⟩
  have failed : ((runner refuse).run { steps := some 2 } ⟨attended, ()⟩).1.toOption = none := by
    decide +kernel
  have ran : (attended.run { steps := some 2 }).1.toOption = some 2 := by decide +kernel
  have outcome : ((runner refuse).run { steps := some 2 } ⟨attended, ()⟩).1
      = (attended.run { steps := some 2 }).1 := Result.steps.inj (List.head_eq_of_cons_eq same)
  rw [outcome, ran] at failed
  cases failed

end Watched

end Console

end Handheld
