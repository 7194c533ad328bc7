import Handheld.Proofs.Console.Fault
import Handheld.Proofs.Console.Genuine
import Handheld.Proofs.Console.Observation
import Handheld.Proofs.Console.Running

/-! The clock and the time line.
The clock only moves forward, by the cycles of steps that succeed. The time line is that of the
bundle loaded last, and goes on with the clock from the moment of the load.
-/

namespace Handheld.Console

variable {c d : Console}

-----------------------------------------------------------------------------------------
-- The cycles of steps and runs
-----------------------------------------------------------------------------------------

/-- Notes the cycles of a step that has succeeded in front of those noted before. -/
def noted (outcome : Except Error Nat) (costs : List Nat) : List Nat :=
  match outcome with
  | .ok cycles => cycles :: costs
  | .error _ => costs

/-- A step that fails does not move the clock. -/
theorem step_clock (c : Console) (costs : List Nat)
    : c.step.2.clock.cycles + costs.sum = c.clock.cycles + (noted c.step.1 costs).sum := by
  cases c.passing with
  | fails outcome _ clock => rw [outcome, clock, noted]
  | succeeds outcome _ _ _ _ clock =>
      rw [outcome, clock, noted, List.sum_cons]
      omega

/-- Takes the steps of a console and notes their cycles. -/
def metered : Runner (Console × List Nat) where
  console := Prod.fst
  onConsole change state := (change state.1, state.2)
  step state := (state.1.step.1, state.1.step.2, noted state.1.step.1 state.2)

/-- A metered run is the same run, and moves the clock by what it notes. -/
theorem metered_runFrom (limits : Limits) (patience taken : Nat) (c : Console) (costs : List Nat)
    : ∃ after,
        metered.runFrom limits patience taken (c, costs)
          = ((runner.runFrom limits patience taken c).1,
              (runner.runFrom limits patience taken c).2, after)
        ∧ (runner.runFrom limits patience taken c).2.clock.cycles + costs.sum
          = c.clock.cycles + after.sum := by
  induction patience generalizing c taken costs with
  | zero => exact ⟨costs, rfl, rfl⟩
  | succ patience hypothesis =>
      have unmetered : runner.step c = (c.step.1, c.step.2) := rfl
      have step : metered.step (c, costs) = (c.step.1, c.step.2, noted c.step.1 costs) := rfl
      have console : metered.console (c, costs) = runner.console c := rfl
      have cycles : metered.cycles (c, costs) = runner.cycles c := rfl
      have moved := c.step_clock costs
      rw [Runner.runFrom, Runner.runFrom, console, cycles, unmetered, step]
      split
      · exact ⟨costs, rfl, rfl⟩
      split
      · exact ⟨costs, rfl, rfl⟩
      cases outcome : c.step.1 with
      | error error =>
          rw [outcome] at moved
          exact ⟨costs, rfl, moved⟩
      | ok cycles =>
          rw [outcome] at moved
          obtain ⟨after, same, rest⟩ := hypothesis (taken + 1) c.step.2 (noted (.ok cycles) costs)
          refine ⟨after, same, ?_⟩
          dsimp only
          omega

/-- The cycles of the steps that succeed in a run, the last first. -/
def runCosts (limits : Limits) (c : Console) : List Nat :=
  (metered.run limits (c, [])).2.2

theorem metered_run (limits : Limits) (c : Console)
    : metered.run limits (c, []) = ((c.run limits).1, (c.run limits).2, c.runCosts limits)
        ∧ (c.run limits).2.clock.cycles = c.clock.cycles + (c.runCosts limits).sum := by
  obtain ⟨after, same, moved⟩ :=
    metered_runFrom limits (limits.patience (runner.cycles c)) 0 c []
  have whole : metered.run limits (c, []) = ((c.run limits).1, (c.run limits).2, after) := same
  have costs : c.runCosts limits = after := congrArg (fun ran => ran.2.2) whole
  rw [← costs] at whole moved
  exact ⟨whole, (Int.add_zero _).symm.trans moved⟩

/-- A load does not turn the clock. -/
theorem load_clock (saved : Option Bundle) (c : Console)
    : ((load saved).perform c).2.clock = c.clock := by
  cases loaded : (load saved).perform c with
  | mk outcome d =>
      cases loading loaded with
      | fails _ clock | succeeds _ _ _ clock => exact clock

-----------------------------------------------------------------------------------------
-- Positions on the time line
-----------------------------------------------------------------------------------------

/-- The position on the time line at which something was saved, as it tells itself. -/
def line? (saved : Option Bundle) : Option Int := do
  let opened ← (← saved).open?.toOption
  (opened.description.intMember "cycle_count" 0).toOption

/-- What is found is what the bundle holds. -/
theorem inspect_opened {saved : Option Bundle} {found : Found}
    (looked : ((inspect saved).perform c).1 = .ok found)
    : ∃ bundle, saved = some bundle ∧ bundle.open? = .ok found.opened := by
  obtain ⟨opened, opens, looked⟩ := Attempt.perform_bind_ok looked
  obtain ⟨_, _, looked⟩ := Attempt.perform_bind_ok looked
  obtain ⟨_, _, looked⟩ := Attempt.perform_bind_ok looked
  obtain ⟨_, _, looked⟩ := Attempt.perform_bind_ok looked
  obtain ⟨_, _, looked⟩ := Attempt.perform_bind_ok looked
  obtain rfl := Except.ok.inj looked
  rw [Attempt.perform_ofExcept] at opens
  cases saved with
  | none => cases opens
  | some bundle => exact ⟨bundle, rfl, opens⟩

/-- A load that succeeds puts the console where the bundle was saved. -/
theorem load_line {saved : Option Bundle} (loaded : (load saved).perform c = (.ok (), d))
    : line? saved = some d.timeline := by
  cases loading loaded with
  | @succeeds found line _ looked dated _ clock cycleOffset =>
      obtain ⟨bundle, rfl, opens⟩ := inspect_opened looked
      have reached : line = d.timeline := by
        rw [timeline, cycleOffset, clock]
        omega
      have read : line? (some bundle)
          = (found.opened.description.intMember "cycle_count" 0).toOption :=
        congrArg (fun opened => opened.toOption.bind fun opened : Bundle.Opened =>
          (opened.description.intMember "cycle_count" 0).toOption) opens
      rw [read, dated, reached]
      rfl

/-- A bundle tells where on its time line the console was that has saved it. -/
theorem save_line {created : String} {bundle : Bundle} (saved : c.save created = .ok bundle)
    : line? (some bundle) = some c.timeline := by
  cases packs : c.registers.pack with
  | error error =>
      rw [save, packs] at saved
      cases saved
  | ok bytes =>
      obtain rfl := Except.ok.inj ((save_ok packs created).symm.trans saved)
      rfl

-----------------------------------------------------------------------------------------
-- What happens to a console
-----------------------------------------------------------------------------------------

/-- Something that a host does with a console. Saving is a look. -/
inductive Episode
  | operate (operation : Operation)
  | watch (look : Look)
  | load (saved : Option Bundle)

namespace Episode

/-- What becomes of a console, whether or not the host gets what it wants. -/
def happen (c : Console) : Episode → Console
  | .operate operation => (c.operate operation).2
  | .watch look => (c.look look).2
  | .load saved => ((Console.load saved).perform c).2

/-- The cycles of all steps that succeed meanwhile. -/
def costs (c : Console) : Episode → List Nat
  | .operate .step => noted c.step.1 []
  | .operate (.run limits) => c.runCosts limits
  | .operate (.runUntil goal) => c.runCosts { goal := some goal }
  | .operate (.runFor cycles) => c.runCosts { goal := some (c.clock.cycles + cycles) }
  | _ => []

/-- The clock moves by the cycles of the steps that succeed, and by nothing else. -/
theorem happen_clock (c : Console) (episode : Episode)
    : (episode.happen c).clock.cycles = c.clock.cycles + (episode.costs c).sum := by
  have still : ∀ d : Console, d.clock = c.clock →
      d.clock.cycles = c.clock.cycles + (([] : List Nat).sum : Nat) := by
    intro d same
    rw [same]
    exact (Int.add_zero _).symm
  cases episode with
  | watch look => exact still _ (congrArg (·.clock) (look_bare look c))
  | load saved => exact still _ (load_clock saved c)
  | operate operation =>
      cases operation with
      | step => exact (Int.add_zero _).symm.trans (c.step_clock [])
      | run limits => exact (metered_run limits c).2
      | runUntil goal | runFor cycles => exact (metered_run _ c).2
      | _ => exact still _ rfl

end Episode

-----------------------------------------------------------------------------------------
-- The chronicle of a console
-----------------------------------------------------------------------------------------

/-- Where a time line and the clock have met. -/
structure Landmark where
  line : Int := 0
  clock : Int := 0

/-- A load that succeeds sets a new landmark. -/
def Landmark.pass (landmark : Landmark) (c : Console) : Episode → Landmark
  | .load saved =>
    match ((Console.load saved).perform c).1, line? saved with
    | .ok _, some line => { line, clock := c.clock.cycles }
    | _, _ => landmark
  | _ => landmark

/-- A console with all that has been told of it: the cycles of its steps and the last landmark. -/
structure Chronicle where
  console : Console
  costs : List Nat := []
  landmark : Landmark := {}

namespace Chronicle

variable {chronicle : Chronicle}

/-- Goes on with an episode. -/
def enter (chronicle : Chronicle) (episode : Episode) : Chronicle where
  console := episode.happen chronicle.console
  costs := episode.costs chronicle.console ++ chronicle.costs
  landmark := chronicle.landmark.pass chronicle.console episode

/-- Tells episodes one after the other. -/
def tell (chronicle : Chronicle) (episodes : List Episode) : Chronicle :=
  episodes.foldl enter chronicle

/-- The clock is where the steps have brought it, and the time line has gone on with it from the last
landmark.
-/
structure Consistent (chronicle : Chronicle) : Prop where
  clock : chronicle.console.clock.cycles = chronicle.costs.sum
  timeline
    : chronicle.console.timeline
      = chronicle.landmark.line
        + (chronicle.console.clock.cycles - chronicle.landmark.clock)

theorem Consistent.enter (consistent : chronicle.Consistent) (episode : Episode)
    : (chronicle.enter episode).Consistent where
  clock := by
    have moved := episode.happen_clock chronicle.console
    have clock := consistent.clock
    have sum : (chronicle.enter episode).costs.sum
        = (episode.costs chronicle.console).sum + chronicle.costs.sum := List.sum_append
    have console : (chronicle.enter episode).console = episode.happen chronicle.console := rfl
    rw [console, sum]
    omega
  timeline := by
    have before : chronicle.console.clock.cycles - chronicle.console.cycleOffset
        = chronicle.landmark.line
          + (chronicle.console.clock.cycles - chronicle.landmark.clock) := consistent.timeline
    -- As long as the distance of clock and time line stays, the landmark stays.
    have onward : ∀ d : Console, d.cycleOffset = chronicle.console.cycleOffset →
        d.timeline
          = chronicle.landmark.line + (d.clock.cycles - chronicle.landmark.clock) := by
      intro d kept
      rw [Console.timeline, kept]
      omega
    cases episode with
    | operate operation => exact onward _ (operate_keeps operation chronicle.console).2
    | watch look =>
        exact onward _ (congrArg (·.cycleOffset) (look_bare look chronicle.console))
    | load saved =>
        cases loaded : (Console.load saved).perform chronicle.console with
        | mk outcome d =>
            have console : (chronicle.enter (.load saved)).console = d := congrArg Prod.snd loaded
            rw [console]
            cases loading loaded with
            | fails _ _ kept =>
                have same : (chronicle.enter (.load saved)).landmark = chronicle.landmark := by
                  simp only [Chronicle.enter, Landmark.pass, loaded]
                rw [same]
                exact onward d kept
            | succeeds _ _ _ clock _ =>
                have set : (chronicle.enter (.load saved)).landmark
                    = { line := d.timeline, clock := chronicle.console.clock.cycles } := by
                  simp only [Chronicle.enter, Landmark.pass, loaded, load_line loaded]
                rw [set, clock]
                dsimp only
                omega

theorem Consistent.tell (consistent : chronicle.Consistent) (episodes : List Episode)
    : (chronicle.tell episodes).Consistent := by
  induction episodes generalizing chronicle with
  | nil => exact consistent
  | cons episode rest hypothesis => exact hypothesis (consistent.enter episode)

/-- A chronicle of which nothing is left out, however it goes on. -/
structure Faithful (chronicle : Chronicle) : Prop extends Consistent chronicle where
  /-- What is noted of a run is noted as the very same run goes on. -/
  run
    : ∀ limits,
        metered.run limits (chronicle.console, [])
          = ((chronicle.console.run limits).1, (chronicle.console.run limits).2,
              chronicle.console.runCosts limits)
  moves
    : ∀ episode : Episode,
        (episode.happen chronicle.console).clock.cycles
          = chronicle.console.clock.cycles + (episode.costs chronicle.console).sum
  forward
    : ∀ episode : Episode,
        chronicle.console.clock.cycles ≤ (episode.happen chronicle.console).clock.cycles
  fails
    : ∀ {error}, chronicle.console.step.1 = .error error →
        chronicle.console.step.2.clock.cycles = chronicle.console.clock.cycles
  reset : chronicle.console.reset.clock = chronicle.console.clock
  load : ∀ saved, ((load saved).perform chronicle.console).2.clock = chronicle.console.clock
  watch : ∀ sight, (chronicle.console.look sight).2.clock = chronicle.console.clock
  /-- No load succeeds without a landmark. -/
  lands
    : ∀ {saved d}, (Console.load saved).perform chronicle.console = (.ok (), d) →
        line? saved = some d.timeline
  /-- Any console goes on where this one was saved. -/
  saves
    : ∀ {created bundle} {d d' : Console},
        chronicle.console.save created = .ok bundle →
        (Console.load (some bundle)).perform d = (.ok (), d') →
        d'.timeline = chronicle.console.timeline

theorem Consistent.faithful (consistent : chronicle.Consistent) : chronicle.Faithful where
  toConsistent := consistent
  run limits := (metered_run limits chronicle.console).1
  moves := Episode.happen_clock chronicle.console
  forward episode := by
    have moved := episode.happen_clock chronicle.console
    omega
  fails failed := by
    have moved := chronicle.console.step_clock []
    rw [failed, noted] at moved
    omega
  reset := rfl
  load saved := load_clock saved chronicle.console
  watch sight := congrArg (·.clock) (look_bare sight chronicle.console)
  lands := load_line
  saves saved loaded :=
    Option.some.inj ((load_line loaded).symm.trans (save_line saved))

theorem new_consistent {cartridge : Cartridge} {settings : Settings} {wishes : Settings.Wishes}
    {new : Console} (built : ofCartridge cartridge settings wishes = .ok new)
    : Consistent { console := new } := by
  obtain ⟨n, _, _, _, rfl, _, clock, offset⟩ := ofCartridge_eq built
  have zero : n.clock.cycles = 0 := congrArg Clock.cycles clock
  refine ⟨zero, ?_⟩
  change n.clock.cycles - n.cycleOffset = 0 + (n.clock.cycles - 0)
  omega

/-- Whatever a host does with a new console, the clock has moved by the cycles of the steps that have
succeeded, and the time line is that of the bundle loaded last, or of the console itself.
-/
theorem tell_faithful {cartridge : Cartridge} {settings : Settings} {wishes : Settings.Wishes}
    {new : Console} (built : ofCartridge cartridge settings wishes = .ok new)
    (episodes : List Episode)
    : (tell { console := new } episodes).Faithful :=
  ((new_consistent built).tell episodes).faithful

/-- A new console that has taken a step and has failed to load anything becomes again what it was,
at a later time.
-/
theorem tell_faithful_reloaded
    : ∃ (new : Console) (bundle : Bundle), new.save "" = .ok bundle
        ∧ (tell { console := new } [.operate .step, .load none, .load (some bundle)]).Faithful
        ∧ (tell { console := new }
              [.operate .step, .load none, .load (some bundle)]).console.timeline = 0
        ∧ (tell { console := new } [.operate .step, .load none, .load (some bundle)]).landmark
          = { line := 0, clock := new.step.2.clock.cycles } := by
  obtain ⟨cartridge, wishes, new, inserted, built, _⟩ := built_blank
  have steady := ofCartridge_steady built
  obtain ⟨bytes, packs⟩ := (Genuine.built inserted built).intact.packs
  obtain ⟨bundle, saved⟩ : ∃ bundle, new.save "" = .ok bundle := ⟨_, save_ok packs ""⟩
  obtain ⟨d, loaded, -⟩ := steady.load_agrees steady.step saved
  have faithful :=
    tell_faithful built [.operate .step, .load none, .load (some bundle)]
  have begun := new_consistent built
  have zero : new.timeline = 0 := by
    rw [begun.timeline, begun.clock]
    rfl
  have line : d.timeline = 0 :=
    (Option.some.inj ((load_line loaded).symm.trans (save_line saved))).trans zero
  -- Nothing comes of the load in between.
  have console : (tell { console := new } [.operate .step, .load none]).console = new.step.2 := rfl
  have landmark : (tell { console := new } [.operate .step, .load none]).landmark = {} := rfl
  have whole : tell { console := new } [.operate .step, .load none, .load (some bundle)]
      = (tell { console := new } [.operate .step, .load none]).enter (.load (some bundle)) := rfl
  refine ⟨new, bundle, saved, faithful, ?_, ?_⟩
  · rw [whole, Chronicle.enter, console, Episode.happen, loaded, line]
  · rw [whole, Chronicle.enter, console, landmark, Landmark.pass, loaded, load_line loaded, line]

end Chronicle

end Handheld.Console
