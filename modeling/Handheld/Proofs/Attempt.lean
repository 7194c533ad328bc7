import Handheld.Proofs.Simulation
import Handheld.Proofs.Stage

/-! Attempts carried out one after the other.
What an attempt did before it failed stays done, so an attempt is a row of stages, of which some may
not be reached.
-/

namespace Handheld

variable {σ τ α β : Type}

namespace Attempt

-----------------------------------------------------------------------------------------
-- Performing actions one after the other
-----------------------------------------------------------------------------------------

/-- What follows an action works on its result in the state that it leaves. -/
theorem perform_bind_of {p : Attempt σ α} {f : α → Attempt σ β} {s t : σ} {answer : α}
    (first : p.perform s = (.ok answer, t))
    : (p >>= f).perform s = (f answer).perform t := by
  have unfolded : (p >>= f).perform s
      = (ExceptT.bindCont f (p.perform s).1).run (p.perform s).2 := rfl
  rw [unfolded, first]
  rfl

/-- Nothing follows an action that fails. -/
theorem perform_bind_of_error {p : Attempt σ α} {f : α → Attempt σ β} {s t : σ} {error : Error}
    (first : p.perform s = (.error error, t))
    : (p >>= f).perform s = (.error error, t) := by
  have unfolded : (p >>= f).perform s
      = (ExceptT.bindCont f (p.perform s).1).run (p.perform s).2 := rfl
  rw [unfolded, first]
  rfl

/-- An action that succeeds begins with one that does. -/
theorem perform_bind_ok {p : Attempt σ α} {f : α → Attempt σ β} {s : σ} {result : β}
    (done : ((p >>= f).perform s).1 = .ok result)
    : ∃ answer, (p.perform s).1 = .ok answer
        ∧ ((f answer).perform (p.perform s).2).1 = .ok result := by
  cases first : p.perform s with
  | mk outcome between =>
      cases outcome with
      | ok answer =>
          rw [perform_bind_of first] at done
          exact ⟨answer, rfl, done⟩
      | error error =>
          rw [perform_bind_of_error first] at done
          cases done

/-- What looks at the state first begins in that state. -/
theorem perform_get_bind (f : σ → Attempt σ α) (s : σ)
    : (get >>= f).perform s = (f s).perform s :=
  rfl

theorem perform_expect {reading : Except Misfit α} {value : α} (read : reading = .ok value) (s : σ)
    : (expect reading).perform s = (.ok value, s) := by
  rw [read]
  rfl

/-- Two readings, the second one of what the first one gave, are one reading. -/
theorem expect_expect {γ : Type} (reading : Except Misfit α) (further : α → Except Misfit β)
    (f : β → Attempt σ γ)
    : (expect reading >>= fun value => expect (further value) >>= f)
        = expect (reading >>= further) >>= f := by
  cases reading with
  | ok value => rfl
  | error reason => rfl

/-- Items that are read one by one are read at once. -/
theorem mapM_expect (reading : α → Except Misfit β) (items : List α)
    : (items.mapM fun item => (expect (reading item) : Attempt σ β))
        = expect (items.mapM reading) := by
  induction items with
  | nil => rfl
  | cons item rest hypothesis =>
      rw [List.mapM_cons, List.mapM_cons, hypothesis]
      cases reading item with
      | error reason => rfl
      | ok value =>
          cases rest.mapM reading with
          | error reason => rfl
          | ok values => rfl

-----------------------------------------------------------------------------------------
-- Actions that change nothing
-----------------------------------------------------------------------------------------

/-- A result that has been worked out already. -/
def ofExcept : Except Error α → Attempt σ α
  | .ok value => pure value
  | .error error => throw error

theorem perform_ofExcept (result : Except Error α) (s : σ)
    : (ofExcept result).perform s = (result, s) := by
  cases result with
  | ok value => rfl
  | error error => rfl

/-- An action looks at the state and leaves it as it is, even if it fails. -/
def Looks (action : Attempt σ α) : Prop :=
  ∀ state, (action.perform state).2 = state

namespace Looks

protected theorem pure (value : α) : (Pure.pure value : Attempt σ α).Looks :=
  fun _ => rfl

protected theorem throw (error : Error) : (throw error : Attempt σ α).Looks :=
  fun _ => rfl

protected theorem get : (get : Attempt σ σ).Looks :=
  fun _ => rfl

theorem ofExcept (result : Except Error α) : (ofExcept result : Attempt σ α).Looks :=
  fun s => congrArg Prod.snd (perform_ofExcept result s)

theorem expect (reading : Except Misfit α) : (expect reading : Attempt σ α).Looks := by
  cases reading with
  | ok value => exact .pure value
  | error reason => exact .throw _

protected theorem bind {p : Attempt σ α} {f : α → Attempt σ β} (first : p.Looks)
    (second : ∀ value, (f value).Looks)
    : (p >>= f).Looks := by
  intro s
  have unfolded : (p >>= f).perform s
      = (ExceptT.bindCont f (p.perform s).1).run (p.perform s).2 := rfl
  rw [unfolded, first s]
  cases (p.perform s).1 with
  | ok value => exact second value s
  | error error => rfl

end Looks

-----------------------------------------------------------------------------------------
-- Actions that work alike in related states
-----------------------------------------------------------------------------------------

/-- Started in related states, an action answers the same and leaves related states. -/
def Respects (R : σ → σ → Prop) (action : Attempt σ α) : Prop :=
  Simulation R Eq action.run action.run

namespace Respects

variable {R : σ → σ → Prop}

protected theorem pure (value : α) : (Pure.pure value : Attempt σ α).Respects R :=
  Simulation.pure rfl

protected theorem throw (error : Error) : (throw error : Attempt σ α).Respects R :=
  Simulation.pure rfl

theorem ofExcept (result : Except Error α) : (ofExcept result : Attempt σ α).Respects R := by
  cases result with
  | ok value => exact .pure value
  | error error => exact .throw error

theorem expect (reading : Except Misfit α) : (expect reading : Attempt σ α).Respects R := by
  cases reading with
  | ok value => exact .pure value
  | error reason => exact .throw _

protected theorem bind {p : Attempt σ α} {f : α → Attempt σ β} (first : p.Respects R)
    (second : ∀ value, (f value).Respects R)
    : (p >>= f).Respects R := by
  have rest : ∀ outcome other, outcome = other →
      Simulation R Eq (ExceptT.bindCont f outcome) (ExceptT.bindCont f other) := by
    rintro outcome _ rfl
    cases outcome with
    | ok value => exact second value
    | error error => exact Simulation.pure rfl
  have whole := Simulation.bind first rest
  exact whole

theorem getThen {f : σ → Attempt σ α} (same : ∀ s t, R s t → f s = f t)
    (second : ∀ s, (f s).Respects R)
    : (get >>= f).Respects R := by
  intro s t related
  have right : (get >>= f).run.run t = (f s).run.run t :=
    congrArg (·.run.run t) (same s t related).symm
  rw [right]
  exact second s s t related

end Respects

-----------------------------------------------------------------------------------------
-- Actions as rows of stages
-----------------------------------------------------------------------------------------

/-- An action does what a row of stages does. -/
def Staged (action : Attempt σ Unit) (stages : List (Stage σ)) : Prop :=
  ∀ state, action.perform state = Stage.runAll stages state

namespace Staged

variable {p q : Attempt σ Unit} {stages rest : List (Stage σ)}

theorem nil : Staged (pure () : Attempt σ Unit) [] :=
  fun _ => rfl

theorem append (first : p.Staged stages) (second : q.Staged rest)
    : (p >>= fun _ => q).Staged (stages ++ rest) := by
  intro s
  have start := first s
  cases ended : Stage.runAll stages s with
  | mk outcome between =>
      rw [ended] at start
      cases outcome with
      | ok _ => rw [perform_bind_of start, Stage.runAll_append_of_ok ended, second]
      | error error => rw [perform_bind_of_error start, Stage.runAll_append_of_error ended]

theorem take (reading : Except Misfit α) (put : α → σ → σ)
    : Staged (expect reading >>= fun value => modify (put value)) [Stage.taking reading put] := by
  intro s
  cases reading with
  | ok value => rfl
  | error reason => rfl

theorem takeThen {reading : Except Misfit α} {put : α → σ → σ} (second : q.Staged rest)
    : Staged (expect reading >>= fun value => modify (put value) >>= fun _ => q)
        (Stage.taking reading put :: rest) := by
  intro s
  cases reading with
  | ok value => exact second (put value s)
  | error reason => rfl

/-- A value whose reading looks at the state is taken over before anything else. -/
theorem readThen {reading : σ → Except Misfit α} {put : α → σ → σ} (second : q.Staged rest)
    : Staged
        (get >>= fun s => expect (reading s) >>= fun value => modify (put value) >>= fun _ => q)
        ({ read := fun s => (reading s).mapError .misfit, put := put } :: rest) := by
  intro s
  have unfolded : (get >>= fun s => expect (reading s) >>= fun value =>
        modify (put value) >>= fun _ => q : Attempt σ Unit).perform s
      = (expect (reading s) >>= fun value => modify (put value) >>= fun _ => q).perform s := rfl
  rw [unfolded]
  cases read : reading s with
  | ok value =>
      have stage : (reading s).mapError Error.misfit = .ok value := congrArg _ read
      rw [Stage.runAll_cons_of_read stage]
      exact second (put value s)
  | error reason =>
      have stage : (reading s).mapError Error.misfit = .error (.misfit reason) := congrArg _ read
      rw [Stage.runAll_cons_of_error stage]
      rfl

theorem changeThen {change : σ → σ} (second : q.Staged rest)
    : Staged (modify change >>= fun _ => q) (Stage.always change :: rest) :=
  fun s => second (change s)

/-- A replacement of the state that may fail is a stage of its own. -/
theorem replace {change : σ → Except Error σ} {stage : Stage σ}
    (same : ∀ s, change s = stage.run s)
    : Staged (Attempt.replace change) [stage] := by
  intro s
  have unfolded : (Attempt.replace change).perform s
      = (Attempt.replace fun _ => change s).perform s := rfl
  rw [unfolded, Stage.runAll, ← same]
  cases change s with
  | ok next => rfl
  | error error => rfl

theorem forM {action : α → Attempt σ Unit} {stage : α → Stage σ} (items : List α)
    (staged : ∀ item, (action item).Staged [stage item])
    : (items.forM action).Staged (items.map stage) := by
  induction items with
  | nil => exact .nil
  | cons item rest hypothesis => exact .append (staged item) hypothesis

theorem within (part : Part σ τ) {p : Attempt τ Unit} {stages : List (Stage τ)}
    (staged : p.Staged stages)
    : (on part.get part.put p).Staged (stages.map (Stage.within part)) := by
  intro s
  rw [Stage.runAll_within, ← staged (part.get s)]
  rfl

theorem after {reading : Except Misfit α} {f : α → Attempt σ Unit} {stages : List (α → Stage σ)}
    (nonempty : stages ≠ []) (staged : ∀ given, (f given).Staged (stages.map (· given)))
    : (expect reading >>= f).Staged (stages.map (Stage.after reading)) := by
  intro s
  cases reading with
  | ok given => exact (staged given s).trans (Stage.runAll_after given stages s).symm
  | error reason =>
      obtain ⟨stage, rest, rfl⟩ := List.exists_cons_of_ne_nil nonempty
      rfl

theorem needing {reading : Except Misfit α} {f : α → Attempt σ Unit} {stage : α → Stage σ}
    (staged : ∀ given, (f given).Staged [stage given])
    : (expect reading >>= f).Staged [Stage.after reading stage] := by
  have listed : (expect reading >>= f).Staged ([stage].map (Stage.after reading)) :=
    .after (List.cons_ne_nil _ _) staged
  exact listed

end Staged

end Attempt

end Handheld
