import Handheld.Attempt

/-! Attempts as rows of stages.
A stage reads something and, unless that fails, puts it into the state, so it comes about as a whole
or not at all.
-/

namespace Handheld

variable {σ τ ω α β : Type}

/-- A part of a state, and how another one is put in its place. -/
structure Part (σ τ : Type) where
  get : σ → τ
  put : τ → σ → σ
  get_put : ∀ x s, get (put x s) = x := by intros; rfl
  put_put : ∀ x y s, put y (put x s) = put y s := by intros; rfl
  put_get : ∀ s, put (get s) s = s := by intros; rfl

/-- A part of a part. -/
def Part.of (outer : Part σ τ) (inner : Part τ ω) : Part σ ω where
  get s := inner.get (outer.get s)
  put x s := outer.put (inner.put x (outer.get s)) s
  get_put x s := by rw [outer.get_put, inner.get_put]
  put_put x y s := by rw [outer.get_put, outer.put_put, inner.put_put]
  put_get s := by rw [inner.put_get, outer.put_get]

/-- A reading that may fail, and what is done with its result. -/
structure Stage (σ : Type) where
  {Value : Type}
  read : σ → Except Error Value
  put : Value → σ → σ

namespace Stage

/-- Carries out a stage. -/
def run (stage : Stage σ) (state : σ) : Except Error σ :=
  (stage.read state).map fun value => stage.put value state

/-- Carries out stages one after the other, up to the first one that fails. -/
def runAll : List (Stage σ) → σ → Except Error Unit × σ
  | [], state => (.ok (), state)
  | stage :: rest, state =>
    match stage.run state with
    | .ok next => runAll rest next
    | .error error => (.error error, state)

/-- Changes the state. -/
def always (change : σ → σ) : Stage σ where
  read _ := .ok ()
  put _ := change

/-- Replaces the whole state, unless the replacement fails to come about. -/
def replacing (change : σ → Except Error σ) : Stage σ where
  read := change
  put replacement _ := replacement

/-- Takes over a value that a document gives. -/
def taking (reading : Except Misfit α) (put : α → σ → σ) : Stage σ where
  read _ := reading.mapError .misfit
  put := put

/-- A stage that needs a part of a document. -/
def after (reading : Except Misfit α) (stage : α → Stage σ) : Stage σ where
  Value := (given : α) × (stage given).Value
  read state := do
    let given ← reading.mapError .misfit
    return ⟨given, ← (stage given).read state⟩
  put value := (stage value.1).put value.2

/-- A stage on a part of the state. -/
def within (part : Part σ τ) (stage : Stage τ) : Stage σ where
  read state := stage.read (part.get state)
  put value state := part.put (stage.put value (part.get state)) state

theorem read_taking {reading : Except Misfit α} {value : α} (given : reading = .ok value)
    (put : α → σ → σ) (s : σ)
    : (taking reading put).read s = .ok value := by
  rw [given]
  rfl

/-- A stage that needs something that is there runs like the stage it is for. -/
theorem run_after (given : α) (stage : α → Stage σ) (s : σ)
    : (after (.ok given) stage).run s = (stage given).run s := by
  have read : (after (.ok given) stage).read s
      = ((stage given).read s).map fun value => ⟨given, value⟩ := rfl
  rw [run, run, read]
  cases (stage given).read s with
  | ok value => rfl
  | error error => rfl

theorem run_within (part : Part σ τ) (stage : Stage τ) (s : σ)
    : (within part stage).run s
        = (stage.run (part.get s)).map fun changed => part.put changed s := by
  have read : (within part stage).read s = stage.read (part.get s) := rfl
  rw [run, run, read]
  cases stage.read (part.get s) with
  | ok value => rfl
  | error error => rfl

variable {stage : Stage σ} {stages rest : List (Stage σ)} {s t : σ}

/-- A stage that reads something goes on to the next one. -/
theorem runAll_cons_of_read {value : stage.Value} (read : stage.read s = .ok value)
    : runAll (stage :: rest) s = runAll rest (stage.put value s) := by
  rw [runAll, run, read]
  rfl

/-- A stage that fails ends the row and changes nothing. -/
theorem runAll_cons_of_error {error : Error} (read : stage.read s = .error error)
    : runAll (stage :: rest) s = (.error error, s) := by
  rw [runAll, run, read]
  rfl

/-- A single stage that fails changes nothing. -/
theorem runAll_singleton_error {error : Error} (failed : runAll [stage] s = (.error error, t))
    : t = s := by
  cases read : stage.read s with
  | error refusal =>
      rw [runAll_cons_of_error read] at failed
      exact (congrArg Prod.snd failed).symm
  | ok value =>
      rw [runAll_cons_of_read read] at failed
      cases failed

/-- Stages that all come about are followed by the next ones. -/
theorem runAll_append_of_ok (first : runAll stages s = (.ok (), t))
    : runAll (stages ++ rest) s = runAll rest t := by
  induction stages generalizing s with
  | nil =>
      obtain rfl : s = t := congrArg Prod.snd first
      rfl
  | cons stage later hypothesis =>
      cases read : stage.read s with
      | error error =>
          rw [runAll_cons_of_error read] at first
          cases first
      | ok value =>
          rw [runAll_cons_of_read read] at first
          rw [List.cons_append, runAll_cons_of_read read, hypothesis first]

/-- Stages that fail are not followed by anything. -/
theorem runAll_append_of_error {error : Error} (first : runAll stages s = (.error error, t))
    : runAll (stages ++ rest) s = (.error error, t) := by
  induction stages generalizing s with
  | nil => cases first
  | cons stage later hypothesis =>
      cases read : stage.read s with
      | error error =>
          rw [runAll_cons_of_error read] at first
          rw [List.cons_append, runAll_cons_of_error read, first]
      | ok value =>
          rw [runAll_cons_of_read read] at first
          rw [List.cons_append, runAll_cons_of_read read, hypothesis first]

/-- Stages that find what they bring change nothing before one that fails. -/
theorem runAll_of_idle {done : List (Stage σ)} {error : Error}
    (idle : ∀ earlier ∈ done, earlier.run s = .ok s) (fails : stage.run s = .error error)
    : runAll (done ++ stage :: rest) s = (.error error, s) := by
  induction done with
  | nil => rw [List.nil_append, runAll, fails]
  | cons first later hypothesis =>
      rw [List.cons_append, runAll, idle first List.mem_cons_self]
      exact hypothesis fun earlier member => idle earlier (List.mem_cons_of_mem _ member)

/-- A row that comes about begins with a stage that does. -/
theorem runAll_cons_ok (done : runAll (stage :: rest) s = (.ok (), t))
    : ∃ value, stage.read s = .ok value ∧ runAll rest (stage.put value s) = (.ok (), t) := by
  cases read : stage.read s with
  | error error =>
      rw [runAll_cons_of_error read] at done
      cases done
  | ok value =>
      rw [runAll_cons_of_read read] at done
      exact ⟨value, rfl, done⟩

/-- A row that comes about can be cut anywhere. -/
theorem runAll_append_ok (done : runAll (stages ++ rest) s = (.ok (), t))
    : ∃ between, runAll stages s = (.ok (), between) ∧ runAll rest between = (.ok (), t) := by
  cases first : runAll stages s with
  | mk outcome between =>
      cases outcome with
      | ok _ =>
          rw [runAll_append_of_ok first] at done
          exact ⟨between, rfl, done⟩
      | error error =>
          rw [runAll_append_of_error first] at done
          cases done

/-- Every stage of a row preserves a property of the state. -/
def Preserves (I : σ → Prop) (stages : List (Stage σ)) : Prop :=
  ∀ stage ∈ stages, ∀ s value, stage.read s = .ok value → I s → I (stage.put value s)

namespace Preserves

variable {I : σ → Prop}

theorem nil : Preserves I [] :=
  List.forall_mem_nil _

theorem cons (first : ∀ s value, stage.read s = .ok value → I s → I (stage.put value s))
    (later : Preserves I rest)
    : Preserves I (stage :: rest) :=
  List.forall_mem_cons.mpr ⟨first, later⟩

theorem append (first : Preserves I stages) (second : Preserves I rest)
    : Preserves I (stages ++ rest) :=
  fun stage member => (List.mem_append.mp member).elim (first stage) (second stage)

/-- What every stage preserves is preserved by a row of them, wherever it ends. -/
theorem runAll (preserves : Preserves I stages) (holds : I s) : I (runAll stages s).2 := by
  induction stages generalizing s with
  | nil => exact holds
  | cons stage later hypothesis =>
      cases read : stage.read s with
      | error error =>
          rw [runAll_cons_of_error read]
          exact holds
      | ok value =>
          rw [runAll_cons_of_read read]
          have next := preserves stage List.mem_cons_self s value read holds
          have rest := fun other member => preserves other (List.mem_cons_of_mem _ member)
          exact hypothesis rest next

end Preserves

/-- Every stage of a row reads the same in related states and keeps them related. -/
def Respects (R : σ → σ → Prop) (stages : List (Stage σ)) : Prop :=
  ∀ stage ∈ stages, ∀ s t, R s t →
    stage.read s = stage.read t
      ∧ ∀ value, stage.read s = .ok value → R (stage.put value s) (stage.put value t)

namespace Respects

variable {R : σ → σ → Prop}

theorem nil : Respects R [] :=
  List.forall_mem_nil _

theorem cons (first : ∀ s t, R s t →
      stage.read s = stage.read t
        ∧ ∀ value, stage.read s = .ok value → R (stage.put value s) (stage.put value t))
    (later : Respects R rest)
    : Respects R (stage :: rest) :=
  List.forall_mem_cons.mpr ⟨first, later⟩

theorem consTaking {reading : Except Misfit α} {put : α → σ → σ}
    (keeps : ∀ s t, R s t → ∀ value, R (put value s) (put value t)) (later : Respects R rest)
    : Respects R (taking reading put :: rest) :=
  cons (fun s t related => ⟨rfl, fun value _ => keeps s t related value⟩) later

theorem append (first : Respects R stages) (second : Respects R rest)
    : Respects R (stages ++ rest) :=
  fun stage member => (List.mem_append.mp member).elim (first stage) (second stage)

theorem within (part : Part σ τ) (same : ∀ s t, R s t → part.get s = part.get t)
    (replaced : ∀ s t, R s t → ∀ x, R (part.put x s) (part.put x t)) (stages : List (Stage τ))
    : Respects R (stages.map (.within part)) := by
  intro stage member s t related
  obtain ⟨original, _, rfl⟩ := List.mem_map.mp member
  have parts := same s t related
  refine ⟨congrArg original.read parts, fun value _ => ?_⟩
  have put : (Stage.within part original).put value t
      = part.put (original.put value (part.get s)) t :=
    congrArg (fun x => part.put (original.put value x) t) parts.symm
  rw [put]
  exact replaced s t related _

/-- A row comes out the same in related states, and leaves related states, wherever it ends. -/
theorem runAll (respects : Respects R stages) (related : R s t)
    : (runAll stages s).1 = (runAll stages t).1 ∧ R (runAll stages s).2 (runAll stages t).2 := by
  induction stages generalizing s t with
  | nil => exact ⟨rfl, related⟩
  | cons stage later hypothesis =>
      obtain ⟨same, keeps⟩ := respects stage List.mem_cons_self s t related
      cases read : stage.read s with
      | error error =>
          rw [runAll_cons_of_error read, runAll_cons_of_error (same.symm.trans read)]
          exact ⟨rfl, related⟩
      | ok value =>
          rw [runAll_cons_of_read read, runAll_cons_of_read (same.symm.trans read)]
          have rest := fun other member => respects other (List.mem_cons_of_mem _ member)
          exact hypothesis rest (keeps value read)

end Respects

/-- Stages that need something that is there do what they are for. -/
theorem runAll_after (given : α) (stages : List (α → Stage σ)) (s : σ)
    : runAll (stages.map (after (.ok given))) s = runAll (stages.map (· given)) s := by
  induction stages generalizing s with
  | nil => rfl
  | cons stage later hypothesis =>
      rw [List.map_cons, List.map_cons, runAll, runAll, run_after]
      cases (stage given).run s with
      | error error => rfl
      | ok next => exact hypothesis next

/-- Stages on a part of the state do to it what they do on their own. -/
theorem runAll_within (part : Part σ τ) (stages : List (Stage τ)) (s : σ)
    : runAll (stages.map (within part)) s
        = ((runAll stages (part.get s)).1, part.put (runAll stages (part.get s)).2 s) := by
  induction stages generalizing s with
  | nil => rw [List.map_nil, runAll, runAll, part.put_get]
  | cons stage later hypothesis =>
      rw [List.map_cons, runAll, runAll, run_within]
      cases stage.run (part.get s) with
      | error error => exact congrArg (Prod.mk _) (part.put_get s).symm
      | ok changed =>
          refine (hypothesis (part.put changed s)).trans ?_
          rw [part.get_put, part.put_put]

theorem runAll_within_of_ok (part : Part σ τ) {stages : List (Stage τ)} {x : τ}
    (done : runAll stages (part.get s) = (.ok (), x))
    : runAll (stages.map (within part)) s = (.ok (), part.put x s) := by
  rw [runAll_within, done]

theorem runAll_within_ok {part : Part σ τ} {stages : List (Stage τ)}
    (done : runAll (stages.map (within part)) s = (.ok (), t))
    : runAll stages (part.get s) = (.ok (), part.get t) := by
  rw [runAll_within] at done
  obtain ⟨outcome, rfl⟩ := Prod.mk.inj done
  rw [part.get_put]
  exact Prod.ext outcome rfl

/-- What a part of a document has given beside the state, the document has given. -/
theorem read_after {reading : Except Misfit α} {further : α → σ → Except Misfit β}
    {put : α → β → σ → σ} {value}
    (read
      : (after reading fun given => {
          read := fun s => (further given s).mapError .misfit
          put := put given }).read s = .ok value)
    : (reading >>= (further · s)) = .ok value.2 := by
  cases reading with
  | error reason => cases read
  | ok given =>
      have inner
          : (after (.ok given) fun given => {
              read := fun s => (further given s).mapError .misfit
              put := put given }).read s
            = ((further given s).mapError Error.misfit).map (Sigma.mk given) := rfl
      rw [inner] at read
      have outer : (Except.ok given >>= (further · s)) = further given s := rfl
      rw [outer]
      cases further' : further given s with
      | error reason =>
          rw [further'] at read
          cases read
      | ok result =>
          rw [further'] at read
          rw [← Except.ok.inj read]

/-- What a part of a document has given, the document has given. -/
theorem read_after_taking {reading : Except Misfit α} {further : α → Except Misfit β}
    {put : α → β → σ → σ} {value}
    (read : (after reading fun given => taking (further given) (put given)).read s = .ok value)
    : (reading >>= further) = .ok value.2 :=
  read_after read

-----------------------------------------------------------------------------------------
-- Stages that keep apart
-----------------------------------------------------------------------------------------

/-- No stage of a row touches a portion of the state. -/
def Keeps (portion : σ → ω) (stages : List (Stage σ)) : Prop :=
  ∀ stage ∈ stages, ∀ s value, portion (stage.put value s) = portion s

theorem Keeps.nil {portion : σ → ω} : Keeps portion [] :=
  List.forall_mem_nil _

theorem Keeps.cons {portion : σ → ω}
    (kept : ∀ s value, portion (stage.put value s) = portion s) (later : Keeps portion rest)
    : Keeps portion (stage :: rest) :=
  List.forall_mem_cons.mpr ⟨kept, later⟩

theorem Keeps.append {portion : σ → ω} (first : Keeps portion stages)
    (second : Keeps portion rest)
    : Keeps portion (stages ++ rest) :=
  fun stage member => (List.mem_append.mp member).elim (first stage) (second stage)

theorem Keeps.within {portion : σ → ω} (part : Part σ τ)
    (kept : ∀ x s, portion (part.put x s) = portion s) (stages : List (Stage τ))
    : Keeps portion (stages.map (.within part)) := by
  intro stage member s value
  obtain ⟨original, _, rfl⟩ := List.mem_map.mp member
  exact kept _ s

theorem Keeps.preserves {portion : σ → ω} (keeps : Keeps portion stages) (content : ω)
    : Preserves (fun s => portion s = content) stages :=
  fun stage member s value _ same => (keeps stage member s value).trans same

/-- A portion that no stage touches is the same wherever a row ends. -/
theorem Keeps.runAll {portion : σ → ω} (keeps : Keeps portion stages) {outcome : Except Error Unit}
    (ran : runAll stages s = (outcome, t))
    : portion t = portion s := by
  have kept := (keeps.preserves (portion s)).runAll rfl
  rwa [ran] at kept

/-- Each stage of a row changes a part of a portion, and nothing else, and no later one touches that
part.
-/
inductive Apart (portion : σ → ω) : List (Stage σ) → Prop
  | nil : Apart portion []
  | cons {stage : Stage σ} {rest : List (Stage σ)} {π : Type} (part : ω → π)
    (only
      : ∀ s value, stage.read s = .ok value →
          part (portion (stage.put value s)) = part (portion s) → stage.put value s = s)
    (untouched : Keeps (part ∘ portion) rest)
    (apart : Apart portion rest)
    : Apart portion (stage :: rest)

namespace Apart

variable {portion : σ → ω}

/-- Rows keep apart if the second one does not touch the portion that the first one is about. -/
theorem append {υ : Type} {other : σ → υ} (first : Apart portion stages)
    (second : Apart other rest) (keeps : Keeps portion rest)
    : Apart id (stages ++ rest) := by
  induction first with
  | nil =>
      induction second with
      | nil => exact .nil
      | cons part only untouched _ hypothesis =>
          have tail := hypothesis fun stage member => keeps stage (List.mem_cons_of_mem _ member)
          exact .cons (part ∘ other) only untouched tail
  | cons part only untouched _ hypothesis =>
      have later : Keeps (part ∘ portion) rest :=
        fun stage member s value => congrArg part (keeps stage member s value)
      exact .cons (part ∘ portion) only (untouched.append later) hypothesis

theorem within {τ : Type} {portion : τ → ω} {stages : List (Stage τ)} (part : Part σ τ)
    (apart : Apart portion stages)
    : Apart (portion ∘ part.get) (stages.map (Stage.within part)) := by
  induction apart with
  | nil => exact .nil
  | @cons stage rest _ piece only untouched _ hypothesis =>
      refine .cons piece ?_ ?_ hypothesis
      · intro s value read same
        have inner : piece (portion (stage.put value (part.get s)))
            = piece (portion (part.get s)) := by
          simpa only [Stage.within, Function.comp_apply, part.get_put] using same
        refine Eq.trans ?_ (part.put_get s)
        exact congrArg (part.put · s) (only (part.get s) value read inner)
      · intro other member s value
        obtain ⟨original, among, rfl⟩ := List.mem_map.mp member
        simpa only [Stage.within, Function.comp_apply, part.get_put]
          using untouched original among (part.get s) value

/-- Stages keep apart if they do so while they wait for something that is there. -/
theorem of_after {given : α} {stages : List (α → Stage σ)}
    (apart : Apart portion (stages.map (after (.ok given))))
    : Apart portion (stages.map (· given)) := by
  induction stages with
  | nil => exact .nil
  | cons stage rest ih =>
      rcases apart with _ | ⟨part, only, untouched, apart⟩
      refine .cons part ?_ ?_ (ih apart)
      · intro s value read
        have whole : (after (.ok given) stage).read s = .ok ⟨given, value⟩ := by
          have unfolded : (after (.ok given) stage).read s
              = ((stage given).read s).map fun value => ⟨given, value⟩ := rfl
          rw [unfolded, read]
          rfl
        exact only s ⟨given, value⟩ whole
      · intro other member s value
        obtain ⟨original, among, rfl⟩ := List.mem_map.mp member
        exact untouched _ (List.mem_map_of_mem among) s ⟨given, value⟩

/-- A row that fails leaves the state as it was just if every stage before the one that fails finds
in the state what it brings. Witness: the first stage that changes something changes a part that no
later one touches.
-/
theorem unchanged_iff (apart : Apart portion stages) {error : Error}
    (failed : Stage.runAll stages s = (.error error, t))
    : t = s
        ↔ ∃ done stage rest, stages = done ++ stage :: rest
          ∧ (∀ earlier ∈ done, earlier.run s = .ok s) ∧ stage.run s = .error error := by
  constructor
  · rintro rfl
    -- What a stage has written stays, since no later one touches it: if the state is the same in
    -- the end, then the first stage wrote what was there already, and so on along the row.
    induction apart with
    | nil => cases failed
    | @cons stage rest _ part only untouched _ hypothesis =>
        cases read : stage.read t with
        | error error' =>
            rw [runAll_cons_of_error read] at failed
            obtain rfl : error' = error := Except.error.inj (congrArg Prod.fst failed)
            refine ⟨[], stage, rest, rfl, List.forall_mem_nil _, ?_⟩
            rw [run, read]
            rfl
        | ok value =>
            rw [runAll_cons_of_read read] at failed
            have same : stage.put value t = t := only t value read (untouched.runAll failed).symm
            rw [same] at failed
            obtain ⟨done, failing, last, rfl, idle, fails⟩ := hypothesis failed
            refine ⟨stage :: done, failing, last, rfl, ?_, fails⟩
            intro earlier member
            rcases List.mem_cons.mp member with rfl | before
            · rw [run, read]
              exact congrArg Except.ok same
            · exact idle earlier before
  · rintro ⟨done, failing, last, rfl, idle, fails⟩
    rw [runAll_of_idle idle fails] at failed
    exact (congrArg Prod.snd failed).symm

end Apart

end Stage

end Handheld
