import Mathlib.Algebra.Order.Floor.Semiring
import Mathlib.Data.Rat.Floor
import Mathlib.Tactic.IntervalCases
import Mathlib.Tactic.Linarith
import Handheld.Proofs.Console.Course
import Handheld.Scenario

/-! How far a run goes.
Every step that succeeds takes 4 to 24 cycles, so a run comes to an end, and it ends at the first
step that meets a limit.
-/

namespace Handheld

-----------------------------------------------------------------------------------------
-- The cycles of a single step
-----------------------------------------------------------------------------------------

namespace Cpu

/-- All prices of the instruction lie between 4 and 24 cycles. -/
def Instruction.Affordable (instruction : Instruction) : Prop :=
  ∀ taken, 4 ≤ instruction.cost taken ∧ instruction.cost taken ≤ 24

namespace Chart

theorem base_affordable
    : ∀ entry ∈ base.toList, ∀ instruction ∈ entry, ∀ taken,
        4 ≤ instruction.cost taken ∧ instruction.cost taken ≤ 24 := by
  decide +kernel

theorem extended_affordable
    : ∀ instruction ∈ extended.toList, ∀ taken,
        4 ≤ instruction.cost taken ∧ instruction.cost taken ≤ 24 := by
  decide +kernel

theorem decode?_affordable {opcode : Byte} {instruction : Instruction}
    (found : decode? opcode = some instruction)
    : instruction.Affordable := by
  have entry := Option.join_eq_some_iff.mp found
  exact base_affordable _ (Array.mem_of_getElem? entry).val instruction rfl

theorem decodeExtended_affordable (opcode : Byte)
    : (decodeExtended opcode).Affordable := by
  rw [decodeExtended]
  cases entry : extended[opcode.toNat]? with
  | none => intro taken; cases taken <;> decide
  | some instruction => exact extended_affordable instruction (Array.mem_of_getElem? entry).val

end Chart

namespace Core

variable {core after : Core Memory} {cycles : Nat}

theorem instruction?_affordable {instruction : Instruction}
    (next : core.instruction? = some instruction)
    : instruction.Affordable := by
  obtain ⟨first, decoded, rfl⟩ := Option.map_eq_some_iff.mp next
  split
  · exact Chart.decodeExtended_affordable _
  · exact Chart.decode?_affordable decoded

/-- Waiting is as cheap as the cheapest instruction, and no step costs more than a call. -/
theorem Course.cost (course : Course Memory.bus core (.ok cycles) after)
    : 4 ≤ cycles ∧ cycles ≤ 24 := by
  cases course with
  | waits => decide
  | serves => decide
  | executes awake undisturbed found => exact instruction?_affordable (instruction?_of_fetch found) _

end Core

end Cpu

-----------------------------------------------------------------------------------------
-- Step after step
-----------------------------------------------------------------------------------------

namespace Console

variable {c d : Console} {limits : Limits} {k : Nat}

/-- What a step does to all that a run depends on, by its outcome. -/
inductive Passing (c : Console) : Prop
  | fails {error : Error} (outcome : c.step.1 = .error error) (faulted : c.step.2.fault ≠ none)
      (clock : c.step.2.clock.cycles = c.clock.cycles)
      (stop : c.step.2.stopRequested = c.stopRequested)
  | succeeds {cycles : Nat} (outcome : c.step.1 = .ok cycles) (before : c.fault = none)
      (healthy : c.step.2.fault = none) (least : 4 ≤ cycles) (most : cycles ≤ 24)
      (clock : c.step.2.clock.cycles = c.clock.cycles + cycles)
      (stop : c.step.2.stopRequested = c.stopRequested)

theorem passing (c : Console) : c.Passing := by
  rcases stepped : c.step with ⟨outcome, d⟩
  have first : c.step.1 = outcome := congrArg Prod.fst stepped
  have second : c.step.2 = d := congrArg Prod.snd stepped
  cases c.stepping stepped with
  | halted faulted =>
      refine .fails first ?_ ?_ ?_
      all_goals simp [second, faulted]
  | @fails fault core =>
      obtain ⟨outbox, kept⟩ := keepFault_eq fault { c with core }
      refine .fails first ?_ ?_ ?_
      all_goals simp [second, kept]
  | @succeeds cycles core healthy =>
      obtain ⟨least, most⟩ := (step_ok stepped).1.cost
      obtain ⟨outbox, announcedBanks, concluded⟩ :=
        conclude_eq cycles { c with core, clock := c.clock.after cycles }
      have same : c.step.2 = { tickTimer cycles { c with core, clock := c.clock.after cycles } with
          outbox, announcedBanks } := second.trans concluded
      refine .succeeds first healthy ?_ least most ?_ ?_
      all_goals rw [same]
      · exact healthy
      all_goals rfl

/-- Behind a fault every step is refused and changes nothing. -/
theorem step_faulted (faulted : c.fault ≠ none) : c.step.2 = c := by
  obtain ⟨fault, kept⟩ := Option.ne_none_iff_exists'.mp faulted
  rw [step, kept]

/-- The console after some steps, whatever they come to. -/
def after (c : Console) (k : Nat) : Console :=
  (fun c => c.step.2)^[k] c

theorem after_succ (c : Console) (k : Nat) : c.after (k + 1) = c.step.2.after k :=
  rfl

theorem after_succ_last (c : Console) (k : Nat) : c.after (k + 1) = (c.after k).step.2 :=
  Function.iterate_succ_apply' _ k c

theorem after_add (c : Console) (m n : Nat) : c.after (m + n) = (c.after m).after n := by
  rw [after, Nat.add_comm, Function.iterate_add_apply]
  rfl

theorem after_faulted (faulted : c.fault ≠ none) (k : Nat) : c.after k = c :=
  Function.iterate_fixed (step_faulted faulted) k

theorem after_stopRequested (c : Console) (k : Nat)
    : (c.after k).stopRequested = c.stopRequested := by
  induction k generalizing c with
  | zero => rfl
  | succ k hypothesis =>
      rw [after_succ, hypothesis]
      cases c.passing with
      | fails _ _ _ stop | succeeds _ _ _ _ _ _ stop => exact stop

/-- Time passes with every step that does not fail. -/
theorem clock_after (healthy : (c.after k).fault = none)
    : c.clock.cycles + 4 * k ≤ (c.after k).clock.cycles := by
  induction k generalizing c with
  | zero => simp [after]
  | succ k hypothesis =>
      rw [after_succ] at healthy ⊢
      have rest := hypothesis healthy
      cases c.passing with
      | fails _ faulted =>
          rw [after_faulted faulted] at healthy
          exact absurd healthy faulted
      | succeeds _ _ _ least _ clock => omega

-----------------------------------------------------------------------------------------
-- How long a run lasts
-----------------------------------------------------------------------------------------

namespace Limits

/-- There is a limit, and no number of steps below zero. -/
structure Bounded (limits : Limits) : Prop where
  given : limits.steps ≠ none ∨ limits.goal ≠ none
  nonnegative : ∀ {steps}, limits.steps = some steps → 0 ≤ steps

theorem bounded_goal (goal : Int) : Bounded { goal := some goal } :=
  ⟨.inr nofun, nofun⟩

theorem bounded_steps (steps : Nat) : Bounded { steps := some (steps : Int) } where
  given := .inl nofun
  nonnegative same := Option.some.inj same ▸ Int.natCast_nonneg steps

/-- There is nothing more to run after some steps: a limit is reached, or there is a fault. -/
def Exhausted (limits : Limits) (taken : Nat) (c : Console) : Prop :=
  limits.reached taken c.clock.cycles = true ∨ c.fault ≠ none

theorem reached_iff {taken : Nat} {cycles : Int}
    : limits.reached taken cycles = true
        ↔ (∃ steps, limits.steps = some steps ∧ steps ≤ taken)
          ∨ ∃ goal, limits.goal = some goal ∧ goal ≤ cycles := by
  simp [reached, Option.any_eq_true]

/-- The patience of a run is enough for all the steps that it can take. -/
theorem Bounded.exhausted (bounded : limits.Bounded) (c : Console)
    : limits.Exhausted (limits.patience c.clock.cycles) (c.after (limits.patience c.clock.cycles))
    := by
  obtain ⟨_ | steps, goal⟩ := limits
  · cases goal with
    | none => simpa using bounded.given
    | some goal =>
        by_cases healthy : (c.after (goal - c.clock.cycles).toNat).fault = none
        · have passed := clock_after healthy
          exact .inl (reached_iff.mpr (.inr ⟨goal, rfl, by simp only [patience]; omega⟩))
        · exact .inr healthy
  · exact .inl (reached_iff.mpr (.inl ⟨steps, rfl, Int.self_le_toNat steps⟩))

end Limits

/-- Behind some steps, a run takes exactly `more`. -/
structure Lasts (limits : Limits) (taken : Nat) (c : Console) (more : Nat) : Prop where
  spent : limits.Exhausted (taken + more) (c.after more)
  onward : ∀ i < more, ¬limits.Exhausted (taken + i) (c.after i)

/-- A run that is not over goes on with a step. -/
theorem Lasts.next {taken more : Nat} (lasts : Lasts limits taken c (more + 1))
    : Lasts limits (taken + 1) c.step.2 more where
  spent := by
    have spent := lasts.spent
    rwa [after_succ, Nat.add_comm more, ← Nat.add_assoc] at spent
  onward i less := by
    have onward := lasts.onward (i + 1) (Nat.succ_lt_succ less)
    rwa [after_succ, Nat.add_comm i, ← Nat.add_assoc] at onward

theorem exists_lasts (bounded : limits.Bounded) (c : Console)
    : ∃ more, Lasts limits 0 c more := by
  classical
  have spent : ∃ more, limits.Exhausted (0 + more) (c.after more) :=
    ⟨limits.patience c.clock.cycles, (Nat.zero_add _).symm ▸ bounded.exhausted c⟩
  exact ⟨Nat.find spent, Nat.find_spec spent, fun i less => Nat.find_min spent less⟩

/-- A run takes the steps that it lasts. If there is no fault behind it, it answers their number. -/
theorem runFrom_lasts {patience taken more : Nat} (quiet : c.stopRequested = false)
    (lasts : Lasts limits taken c more) (enough : more ≤ patience)
    : (runner.runFrom limits patience taken c).2 = c.after more
        ∧ ((c.after more).fault = none
          → (runner.runFrom limits patience taken c).1 = .ok (taken + more)) := by
  induction more generalizing c taken patience with
  | zero =>
      cases patience with
      | zero => exact ⟨rfl, fun _ => rfl⟩
      | succ patience =>
          have still : (runner.console c).stopRequested = false := quiet
          rw [Runner.runFrom]
          split
          case isTrue => exact ⟨rfl, fun _ => rfl⟩
          case isFalse unreached =>
            have faulted : c.fault ≠ none := lasts.spent.resolve_left unreached
            obtain ⟨fault, kept⟩ := Option.ne_none_iff_exists'.mp faulted
            have refused : runner.step c = (.error (.halted fault), c) := by
              change c.step = _
              rw [step, kept]
            rw [still, refused]
            exact ⟨rfl, fun healthy => absurd healthy faulted⟩
  | succ more hypothesis =>
      obtain _ | patience := patience
      · contradiction
      have running := lasts.onward 0 (Nat.zero_lt_succ more)
      have unreached : limits.reached taken (runner.cycles c) ≠ true :=
        fun reached => running (.inl reached)
      have still : (runner.console c).stopRequested = false := quiet
      have answer : runner.step c = (c.step.1, c.step.2) := rfl
      rw [Runner.runFrom, if_neg unreached, still, answer, after_succ]
      cases c.passing with
      | fails outcome faulted =>
          rw [outcome, after_faulted faulted]
          exact ⟨rfl, fun healthy => absurd healthy faulted⟩
      | succeeds outcome _ _ _ _ _ stop =>
          have rest :=
            hypothesis (stop.trans quiet) lasts.next (Nat.le_of_succ_le_succ enough)
          rw [Nat.add_right_comm] at rest
          rw [outcome]
          exact rest

theorem run_lasts (bounded : limits.Bounded) (quiet : c.stopRequested = false)
    (lasts : Lasts limits 0 c k)
    : (c.run limits).2 = c.after k
        ∧ ((c.after k).fault = none → (c.run limits).1 = .ok k) := by
  have enough : k ≤ limits.patience c.clock.cycles := by
    by_contra less
    exact lasts.onward _ (Nat.lt_of_not_le less) ((Nat.zero_add _).symm ▸ bounded.exhausted c)
  have ran := runFrom_lasts quiet lasts enough
  rwa [Nat.zero_add] at ran

-----------------------------------------------------------------------------------------
-- The first step that meets a limit
-----------------------------------------------------------------------------------------

/-- The numbers of steps after which a limit is met: the steps are those allowed, or the clock has
come to the goal.
-/
def ends (c : Console) (limits : Limits) : Set Nat :=
  { k | limits.steps = some (k : Int)
    ∨ ∃ goal, limits.goal = some goal ∧ goal ≤ (c.after k).clock.cycles }

/-- No step fails before a limit is met. -/
def Unhindered (c : Console) (limits : Limits) : Prop :=
  ∀ k, (∀ i ≤ k, i ∉ c.ends limits) → ∃ cycles, (c.after k).step.1 = .ok cycles

theorem exhausted_of_mem_ends (member : k ∈ c.ends limits)
    : limits.Exhausted (0 + k) (c.after k) := by
  rw [Nat.zero_add]
  rcases member with steps | goal
  · exact .inl (Limits.reached_iff.mpr (.inl ⟨_, steps, le_refl _⟩))
  · exact .inl (Limits.reached_iff.mpr (.inr goal))

/-- An unhindered run leaves no fault. -/
theorem Unhindered.healthy (unhindered : c.Unhindered limits) (healthy : c.fault = none)
    (lasts : Lasts limits 0 c k)
    : (c.after k).fault = none := by
  cases k with
  | zero => exact healthy
  | succ k =>
      obtain ⟨cycles, succeeded⟩ := unhindered k fun i atMost member =>
        lasts.onward i (Nat.lt_succ_of_le atMost) (exhausted_of_mem_ends member)
      rw [after_succ_last]
      cases (c.after k).passing with
      | fails failed => cases succeeded.symm.trans failed
      | succeeds _ _ healthy => exact healthy

/-- A run without a fault lasts until the first limit is met. -/
theorem Lasts.isLeast (lasts : Lasts limits 0 c k) (bounded : limits.Bounded)
    (healthy : (c.after k).fault = none)
    : IsLeast (c.ends limits) k := by
  refine ⟨?member, fun i member => ?least⟩
  case least =>
    by_contra less
    exact lasts.onward i (Nat.lt_of_not_le less) (exhausted_of_mem_ends member)
  case member =>
    have reached := lasts.spent.resolve_right (not_not_intro healthy)
    rw [Nat.zero_add] at reached
    rcases Limits.reached_iff.mp reached with ⟨steps, allowed, atMost⟩ | goal
    · obtain ⟨steps, rfl⟩ := Int.eq_ofNat_of_zero_le (bounded.nonnegative allowed)
      -- With fewer steps allowed, the run would have ended before.
      have exact : steps = k := by
        by_contra apart
        have less : steps < k := by omega
        exact lasts.onward steps less (exhausted_of_mem_ends (.inl allowed))
      exact .inl (exact ▸ allowed)
    · exact .inr goal

theorem run_isLeast (bounded : limits.Bounded) (healthy : c.fault = none)
    (quiet : c.stopRequested = false) (unhindered : c.Unhindered limits)
    : ∃ k, IsLeast (c.ends limits) k ∧ (c.after k).fault = none
        ∧ c.run limits = (.ok k, c.after k) := by
  obtain ⟨k, lasts⟩ := exists_lasts bounded c
  have sound := unhindered.healthy healthy lasts
  obtain ⟨left, answered⟩ := run_lasts bounded quiet lasts
  exact ⟨k, lasts.isLeast bounded sound, sound, Prod.ext (answered sound) left⟩

theorem mem_ends_goal {goal : Int}
    : k ∈ c.ends { goal := some goal } ↔ goal ≤ (c.after k).clock.cycles := by
  simp [ends]

/-- The last step crosses the goal, and by less than its own cycles. -/
theorem overshoot {goal : Int} (least : IsLeast (c.ends { goal := some goal }) k)
    (healthy : (c.after k).fault = none) (ahead : c.clock.cycles < goal)
    : goal ≤ (c.after k).clock.cycles ∧ (c.after k).clock.cycles < goal + 24
        ∧ 4 * (k : Int) < goal - c.clock.cycles + 4 := by
  have arrived := mem_ends_goal.mp least.1
  cases k with
  | zero => exact absurd arrived (Int.not_le.mpr ahead)
  | succ j =>
      have short : (c.after j).clock.cycles < goal := by
        by_contra early
        exact absurd (least.2 (mem_ends_goal.mpr (Int.not_lt.mp early))) (Nat.not_succ_le_self j)
      rw [after_succ_last] at healthy arrived ⊢
      cases (c.after j).passing with
      | fails _ faulted => exact absurd healthy faulted
      | succeeds _ before _ _ most clock =>
          have passed := clock_after before
          exact ⟨arrived, by omega, by omega⟩

/-- A run takes no more steps to a goal than steps of four cycles. -/
theorem atMost_ceil {goal : Int} (least : IsLeast (c.ends { goal := some goal }) k)
    (healthy : (c.after k).fault = none)
    : k ≤ ⌈((goal - c.clock.cycles : Int) : Rat) / 4⌉₊ := by
  rcases Int.lt_or_le c.clock.cycles goal with ahead | arrived
  · obtain ⟨-, -, few⟩ := overshoot least healthy ahead
    cases k with
    | zero => exact Nat.zero_le _
    | succ j =>
        have short : (j : Int) * 4 < goal - c.clock.cycles := by omega
        rw [Nat.succ_le_iff, Nat.lt_ceil, lt_div_iff₀ (by norm_num)]
        exact_mod_cast short
  · have started : 0 ∈ c.ends { goal := some goal } := mem_ends_goal.mpr arrived
    exact (least.2 started).trans (Nat.zero_le _)

/-- A run to a goal answers how far the clock has moved. -/
theorem runUntil_isLeast {goal : Int} (healthy : c.fault = none) (quiet : c.stopRequested = false)
    (unhindered : c.Unhindered { goal := some goal })
    : ∃ k, IsLeast (c.ends { goal := some goal }) k ∧ (c.after k).fault = none
        ∧ c.runUntil goal = (.ok ((c.after k).clock.cycles - c.clock.cycles), c.after k) := by
  obtain ⟨k, least, sound, ran⟩ :=
    run_isLeast (Limits.bounded_goal goal) healthy quiet unhindered
  have same : runner.run { goal := some goal } c = (.ok k, c.after k) := ran
  refine ⟨k, least, sound, ?_⟩
  rw [runUntil, Runner.runUntil, Runner.elapse, same]
  rfl

/-- A goal that lies behind takes no step. -/
theorem runUntil_arrived {goal : Int} (arrived : goal ≤ c.clock.cycles)
    : c.runUntil goal = (.ok 0, c) := by
  have hasty : Limits.patience { goal := some goal } (runner.cycles c) = 0 :=
    Int.toNat_of_nonpos (Int.sub_nonpos_of_le arrived)
  have same : runner.run { goal := some goal } c = (.ok 0, c) := by
    rw [Runner.run, hasty]
    rfl
  rw [runUntil, Runner.runUntil, Runner.elapse, same]
  simp [Except.map]

-----------------------------------------------------------------------------------------
-- Runs one after the other
-----------------------------------------------------------------------------------------

/-- Two runs are one, if the first of them does not miss the end of the whole run and the second one
meets it.
-/
theorem Lasts.trans {first rest whole : Limits} {m n : Nat} (start : Lasts first 0 c m)
    (further : Lasts rest 0 (c.after m) n)
    (sooner : ∀ i < m, whole.Exhausted i (c.after i) → first.Exhausted i (c.after i))
    (same
      : ∀ i, whole.Exhausted (m + i) (c.after (m + i)) ↔ rest.Exhausted i (c.after (m + i)))
    : Lasts whole 0 c (m + n) where
  spent := by
    have spent := further.spent
    rw [Nat.zero_add, ← after_add] at spent
    rw [Nat.zero_add]
    exact (same n).mpr spent
  onward i less spent := by
    rw [Nat.zero_add] at spent
    rcases Nat.lt_or_ge i m with before | behind
    · exact start.onward i before ((Nat.zero_add i).symm ▸ sooner i before spent)
    · obtain ⟨j, rfl⟩ := Nat.exists_eq_add_of_le behind
      have onward := further.onward j (by omega)
      rw [Nat.zero_add, ← after_add] at onward
      exact onward ((same j).mp spent)

theorem run_run {first rest whole : Limits} (quiet : c.stopRequested = false)
    (bounded : first.Bounded ∧ rest.Bounded ∧ whole.Bounded)
    (joins
      : ∀ {m n}, Lasts first 0 c m → Lasts rest 0 (c.after m) n → Lasts whole 0 c (m + n))
    : ((c.run first).2.run rest).2 = (c.run whole).2 := by
  obtain ⟨first, rest, whole⟩ := bounded
  obtain ⟨m, start⟩ := exists_lasts first c
  obtain ⟨n, further⟩ := exists_lasts rest (c.after m)
  have still : (c.after m).stopRequested = false := (after_stopRequested c m).trans quiet
  rw [(run_lasts first quiet start).1, (run_lasts rest still further).1,
    (run_lasts whole quiet (joins start further)).1, after_add]

theorem runUntil_runUntil (quiet : c.stopRequested = false) {goal later : Int}
    (ordered : goal ≤ later)
    : ((c.runUntil goal).2.runUntil later).2 = (c.runUntil later).2 := by
  refine run_run quiet
    ⟨Limits.bounded_goal goal, Limits.bounded_goal later, Limits.bounded_goal later⟩ ?_
  intro m n start further
  refine start.trans further (fun i _ => ?_) (fun i => ?_)
  · simp only [Limits.Exhausted, Limits.reached_iff]
    rintro (⟨⟨_, ⟨⟩, _⟩ | ⟨_, ⟨⟩, arrived⟩⟩ | faulted)
    · exact .inl (.inr ⟨goal, rfl, ordered.trans arrived⟩)
    · exact .inr faulted
  · simp [Limits.Exhausted, Limits.reached_iff]

theorem run_steps_run_steps (quiet : c.stopRequested = false) (a b : Nat)
    : ((c.run { steps := some (a : Int) }).2.run { steps := some (b : Int) }).2
      = (c.run { steps := some ((a + b : Nat) : Int) }).2 := by
  refine run_run quiet
    ⟨Limits.bounded_steps a, Limits.bounded_steps b, Limits.bounded_steps (a + b)⟩ ?_
  intro m n start further
  have exhausted : ∀ {steps taken : Nat} {d : Console},
      Limits.Exhausted { steps := some (steps : Int) } taken d
        ↔ steps ≤ taken ∨ d.fault ≠ none := by
    simp [Limits.Exhausted, Limits.reached_iff]
  refine start.trans further (fun i _ => ?_) (fun i => ?_)
  · rw [exhausted, exhausted]
    exact Or.imp_left (Nat.le_of_add_right_le)
  · rw [exhausted, exhausted]
    by_cases healthy : (c.after m).fault = none
    · -- All the steps of the first run have been taken, and none besides.
      have exact : m = a := by
        have atLeast := (exhausted.mp start.spent).resolve_right (not_not_intro healthy)
        by_contra apart
        exact start.onward a (by omega) (exhausted.mpr (.inl (Nat.zero_add a).ge))
      rw [exact, Nat.add_le_add_iff_left]
    · have faulted : (c.after (m + i)).fault ≠ none := by
        rw [after_add, after_faulted healthy]
        exact healthy
      exact iff_of_true (.inr faulted) (.inr faulted)

end Console

-----------------------------------------------------------------------------------------
-- Moves of a scenario
-----------------------------------------------------------------------------------------

/-- An action of a session that succeeds on the console fails at most at the delivery. -/
theorem Session.perform_act {α : Type} {action : Attempt Console α} {session : Session} {answer : α}
    {console : Console} (done : action.perform session.console = (.ok answer, console))
    : (Session.act action).perform session
      = ((Session.deliver.perform { session with console }).1.map fun _ => answer,
          (Session.deliver.perform { session with console }).2) := by
  have got : (get : Attempt Session Session).perform session = (.ok session, session) := rfl
  have put : (modify fun session => { session with console } : Attempt Session Unit).perform session
      = (.ok (), { session with console }) := rfl
  rw [Session.act, Attempt.perform_bind_of got, done]
  dsimp only
  rw [Attempt.perform_bind_of put]
  cases delivered : Session.deliver.perform { session with console } with
  | mk outcome after =>
      cases outcome with
      | ok _ => exact Attempt.perform_bind_of delivered
      | error error => exact Attempt.perform_bind_of_error delivered

namespace Scenario

open Console (Limits)

variable {scenario : Scenario} {move : Move} {steps : Nat} {budget : Int}

theorem foldl_core {α : Type} (change : Console → α → Console)
    (only : ∀ c x, ∃ core, change c x = { c with core }) (items : List α) (c : Console)
    : ∃ core, items.foldl change c = { c with core } := by
  induction items generalizing c with
  | nil => exact ⟨_, rfl⟩
  | cons item rest hypothesis =>
      obtain ⟨core, changed⟩ := only c item
      obtain ⟨last, whole⟩ := hypothesis (change c item)
      rw [List.foldl_cons, whole, changed]
      exact ⟨last, rfl⟩

/-- Keys and requests do not touch what a run depends on. -/
theorem applyInputs_eq (move : Move) (c : Console)
    : ∃ core, applyInputs move c = { c with core } := by
  obtain ⟨_, released⟩ :=
    foldl_core (fun c key => c.release key) (fun _ _ => ⟨_, rfl⟩) move.release c
  obtain ⟨_, pressed⟩ :=
    foldl_core (fun c key => c.press key) (fun _ _ => ⟨_, rfl⟩) move.press
      (move.release.foldl (fun c key => c.release key) c)
  obtain ⟨core, requested⟩ :=
    foldl_core (fun c source => c.requestInterrupt source) (fun _ _ => ⟨_, rfl⟩)
      move.requests
      (move.press.foldl (fun c key => c.press key)
        (move.release.foldl (fun c key => c.release key) c))
  exact ⟨core, by rw [applyInputs, requested, pressed, released]⟩

/-- The limits of a move that is given a number of steps and of cycles. -/
theorem limits_eq (allowed : move.steps = .int steps) (given : move.budget = .int budget)
    (cycles : Int)
    : move.limits cycles
      = .ok (some { steps := some (steps : Int)
                    goal := if steps = 0 then none else some (cycles + budget) }) := by
  have unfolded : move.limits cycles
      = (if decide ((steps : Int) ≤ 0) then Except.ok ({ steps := some (steps : Int) } : Limits)
        else .ok { steps := some (steps : Int), goal := some (cycles + budget) }).map some := by
    rw [Move.limits, allowed, given]
    rfl
  rw [unfolded]
  by_cases none : steps = 0 <;> simp [none, Except.map]

/-- What a move does to the console. -/
def drive (move : Move) : Attempt Console Nat := do
  modify (applyInputs move)
  match ← Attempt.expect (move.limits (← get).clock.cycles) with
  | none => return 0
  | some limits => Attempt.ofFunction (Console.run limits)

theorem apply_eq (move : Move) : apply move = act (drive move) :=
  rfl

/-- A move runs the console as it is behind its keys and requests. -/
theorem perform_apply {limits : Limits} {console : Console} {taken : Nat}
    (given
      : move.limits (applyInputs move scenario.session.console).clock.cycles = .ok (some limits))
    (ran : (applyInputs move scenario.session.console).run limits = (.ok taken, console))
    : (apply move).perform scenario
      = ((Session.deliver.perform { scenario.session with console }).1.map fun _ => taken,
          { scenario with
            session := (Session.deliver.perform { scenario.session with console }).2 }) := by
  have done : (drive move).perform scenario.session.console = (.ok taken, console) :=
    (Attempt.perform_bind_of (Attempt.perform_expect given _)).trans ran
  have unfolded : (act (drive move)).perform scenario
      = (((Session.act (drive move)).perform scenario.session).1,
          { scenario with session := ((Session.act (drive move)).perform scenario.session).2 }) :=
    rfl
  rw [apply_eq, unfolded, Session.perform_act done]

end Scenario

-----------------------------------------------------------------------------------------
-- Runs on time
-----------------------------------------------------------------------------------------

namespace Console

variable {c d : Console}

/-- The numbers of steps after which a move of some steps and some cycles is over. -/
def movesWithin (c : Console) (steps : Nat) (budget : Int) : Set Nat :=
  { k | k = steps ∨ budget ≤ (c.after k).clock.cycles - c.clock.cycles }

/-- A move takes the steps up to the first that uses up its steps or its cycles. -/
theorem apply_isLeast {scenario : Scenario} {move : Move} {steps : Nat} {budget : Int}
    (allowed : move.steps = .int steps) (given : move.budget = .int budget)
    (driven : Scenario.applyInputs move scenario.session.console = d)
    (healthy : d.fault = none) (quiet : d.stopRequested = false)
    (unhindered
      : d.Unhindered { steps := some (steps : Int), goal := some (d.clock.cycles + budget) })
    : ∃ k, IsLeast (d.movesWithin steps budget) k
        ∧ (Scenario.apply move).perform scenario
          = ((Session.deliver.perform { scenario.session with console := d.after k }).1.map
              fun _ => k,
            { scenario with
              session :=
                (Session.deliver.perform { scenario.session with console := d.after k }).2 }) := by
  have limits := Scenario.limits_eq allowed given
    (Scenario.applyInputs move scenario.session.console).clock.cycles
  subst driven
  by_cases none : steps = 0
  · subst none
    exact ⟨0, ⟨.inl rfl, fun _ _ => Nat.zero_le _⟩, Scenario.perform_apply limits rfl⟩
  · rw [if_neg none] at limits
    have bounded : Limits.Bounded
        { steps := some (steps : Int)
          goal := some ((Scenario.applyInputs move scenario.session.console).clock.cycles
            + budget) } :=
      ⟨.inl nofun, (Limits.bounded_steps steps).nonnegative⟩
    obtain ⟨k, least, -, ran⟩ := run_isLeast bounded healthy quiet unhindered
    refine ⟨k, ?_, Scenario.perform_apply limits ran⟩
    convert least using 1
    ext i
    simp only [movesWithin, ends, Set.mem_ofPred_eq, Option.some.injEq, exists_eq_left',
      Int.natCast_inj]
    omega

/-- The runs of a console take the steps up to the first that meets a limit. -/
structure Punctual (c : Console) : Prop where
  run
    : ∀ {limits : Limits}, limits.Bounded → c.Unhindered limits →
        ∃ k, IsLeast (c.ends limits) k ∧ c.run limits = (.ok k, c.after k)
  /-- Every step takes four cycles at least, and the last one overshoots the goal by less than its
  own cycles. -/
  runUntil
    : ∀ {goal : Int}, c.Unhindered { goal := some goal } →
        ∃ k, IsLeast (c.ends { goal := some goal }) k
          ∧ c.runUntil goal = (.ok ((c.after k).clock.cycles - c.clock.cycles), c.after k)
          ∧ k ≤ ⌈((goal - c.clock.cycles : Int) : Rat) / 4⌉₊
          ∧ (c.clock.cycles < goal →
            goal ≤ (c.after k).clock.cycles ∧ (c.after k).clock.cycles < goal + 24)
  /-- A goal that lies behind takes no step. -/
  arrived : ∀ {goal : Int}, goal ≤ c.clock.cycles → c.runUntil goal = (.ok 0, c)
  runFrame
    : c.Unhindered { goal := some (c.clock.cycles + c.settings.cyclesPerFrame) } →
        ∃ cycles, c.runFrame.1 = .ok cycles
          ∧ c.runFrame.2.clock.cycles = c.clock.cycles + cycles
          ∧ c.settings.cyclesPerFrame ≤ cycles ∧ cycles ≤ c.settings.cyclesPerFrame + 23
  /-- A stop at an earlier goal on the way makes no difference, even with a fault on the way. -/
  runUntil_runUntil
    : ∀ {goal later : Int}, goal ≤ later →
        ((c.runUntil goal).2.runUntil later).2 = (c.runUntil later).2
  run_run
    : ∀ a b : Nat,
        ((c.run { steps := some (a : Int) }).2.run { steps := some (b : Int) }).2
          = (c.run { steps := some ((a + b : Nat) : Int) }).2
  /-- A move is counted from where its keys and requests have left the machine. -/
  apply
    : ∀ {scenario : Scenario} {move : Move} {steps : Nat} {budget : Int},
        scenario.session.console = c → move.steps = .int steps → move.budget = .int budget →
        let d := Scenario.applyInputs move c
        d.Unhindered { steps := some (steps : Int), goal := some (d.clock.cycles + budget) } →
        ∃ k, IsLeast (d.movesWithin steps budget) k
          ∧ (Scenario.apply move).perform scenario
            = ((Session.deliver.perform { scenario.session with console := d.after k }).1.map
                fun _ => k,
              { scenario with
                session :=
                  (Session.deliver.perform { scenario.session with console := d.after k }).2 })

/-- Without a fault and without a stop pending, runs end where their limits say. -/
theorem punctual (healthy : c.fault = none) (quiet : c.stopRequested = false) : c.Punctual where
  run bounded unhindered := by
    obtain ⟨k, least, -, ran⟩ := run_isLeast bounded healthy quiet unhindered
    exact ⟨k, least, ran⟩
  runUntil unhindered := by
    obtain ⟨k, least, sound, ran⟩ := runUntil_isLeast healthy quiet unhindered
    exact ⟨k, least, ran, atMost_ceil least sound,
      fun ahead => (overshoot least sound ahead).imp_right And.left⟩
  arrived := runUntil_arrived
  runFrame unhindered := by
    obtain ⟨k, least, sound, ran⟩ := runUntil_isLeast healthy quiet unhindered
    have frame := c.settings.cyclesPerFrame_pos
    have framed : c.runFrame = (.ok ((c.after k).clock.cycles - c.clock.cycles), c.after k) := ran
    obtain ⟨arrived, close, -⟩ := overshoot least sound (Int.lt_add_of_pos_right _ frame)
    rw [framed]
    exact ⟨_, rfl, by dsimp only; omega, by omega, by omega⟩
  runUntil_runUntil := Console.runUntil_runUntil quiet
  run_run := run_steps_run_steps quiet
  apply {scenario move steps budget} session allowed given := by
    intro d unhindered
    obtain ⟨core, inputs⟩ := Scenario.applyInputs_eq move c
    have driven : Scenario.applyInputs move scenario.session.console = d := congrArg _ session
    refine apply_isLeast allowed given driven ?_ ?_ unhindered
    all_goals rw [show d = { c with core } from inputs]
    · exact healthy
    · exact quiet

theorem shortFrame_pos : (0 : Int) < 5 := by decide

/-- A blank console that waits for good, with short frames. -/
def dozing : Console :=
  { blank with
    core := { blank.core with cpu.halted := true }
    settings := { blank.settings with cyclesPerFrame := 5, cyclesPerFrame_pos := shortFrame_pos } }

/-- Its frames end although it never executes anything again. -/
theorem punctual_dozing
    : dozing.Punctual ∧ dozing.Unhindered { goal := some 5 }
        ∧ IsLeast (dozing.ends { goal := some 5 }) 2
        ∧ dozing.runFrame.1 = .ok 8 := by
  have quiet : dozing.Punctual := punctual rfl rfl
  have second : 2 ∈ dozing.ends { goal := some 5 } := .inr ⟨5, rfl, by decide +kernel⟩
  have short : ∀ i < 2, i ∉ dozing.ends { goal := some 5 } := by
    intro i less
    rw [mem_ends_goal]
    interval_cases i <;> decide +kernel
  have least : IsLeast (dozing.ends { goal := some 5 }) 2 :=
    ⟨second, fun i member => not_lt.mp fun less => short i less member⟩
  have unhindered : dozing.Unhindered { goal := some 5 } := by
    intro k missing
    have less : k < 2 := not_le.mp fun atMost => missing 2 atMost second
    interval_cases k <;> exact ⟨4, rfl⟩
  refine ⟨quiet, unhindered, least, ?_⟩
  obtain ⟨k, first, ran, -⟩ := quiet.runUntil unhindered
  obtain rfl := first.unique least
  exact congrArg Prod.fst ran

end Console

end Handheld
