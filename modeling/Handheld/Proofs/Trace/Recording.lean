import Handheld.Proofs.Attempt
import Handheld.Trace.Tracer

/-! What the actions of a tracer come to.
A trace begins with a builder and its first tracks and ends with an attempt to store it; between,
something can be noted about a track, which is opened before the clock is read.
-/

namespace Handheld

/-- A number has a whole part just if it is finite. -/
theorem Number.isFinite_iff {number : Number}
    : number.isFinite = true ↔ ∃ value, number.toInt = .ok value := by
  cases number with
  | int value => exact iff_of_true rfl ⟨value, rfl⟩
  | float value =>
      rw [isFinite, toInt]
      cases value.isNaN <;> cases value.isInf <;> simp

namespace Trace.Tracer

variable {lane : Lane} {name : Text} {id : Nat} {recording : Recording} {tracer : Tracer}

-----------------------------------------------------------------------------------------
-- Making calls
-----------------------------------------------------------------------------------------

theorem calls_record (builder : Nat) (calls : List Call) (tracer : Tracer)
    : (tracer.record builder calls).calls
      = calls.reverse.map (Entry.mk builder) ++ tracer.calls := by
  rw [record, List.map_reverse]

theorem record_append (builder : Nat) (calls later : List Call) (tracer : Tracer)
    : tracer.record builder (calls ++ later)
      = (tracer.record builder calls).record builder later := by
  simp [record]

-----------------------------------------------------------------------------------------
-- Beginning and ending a trace
-----------------------------------------------------------------------------------------

/-- A tracer that has begun a trace, of which the first tracks are still to be opened. -/
def begun (path : Json) (tracer : Tracer) : Recording × Tracer :=
  ({ path, started := tracer.hostTime, builder := tracer.builders },
    { tracer with manual := {}, builders := tracer.builders + 1 }.record tracer.builders
      [.builder "DMG Core"])

theorem enabled_of_running (running : tracer.recording = some recording)
    : tracer.enabled = true := by
  rw [enabled, running]
  rfl

theorem enabled_of_idle (idle : tracer.recording = none) : tracer.enabled = false := by
  rw [enabled, idle]
  rfl

theorem start_of_running (running : tracer.recording = some recording) (path : Json)
    : tracer.start path = tracer := by
  rw [start, enabled, running]
  rfl

theorem start_of_idle (idle : tracer.recording = none) {path : Json} {known : Recording}
    {reached : Tracer}
    (opening : firstTracks.foldl (fun state name =>
        (track name.1 (.string name.2) state.1 state.2).2) (tracer.begun path)
      = (known, reached))
    : tracer.start path = { reached with recording := some known } := by
  rw [start, enabled, idle]
  exact congrArg (fun state => { state.2 with recording := some state.1 }) opening

theorem perform_stop_of_idle (idle : tracer.recording = none)
    : stop.perform tracer = (.ok (), tracer) := by
  rw [stop, Attempt.perform_get_bind, idle]
  rfl

theorem perform_stop (making : tracer.recording = some recording)
    : stop.perform tracer
      = (if tracer.saveFails then .error .traceNotSaved else .ok (),
        { tracer with recording := none, manual := {} }.record recording.builder
          [.save (if recording.path.isOn then recording.path else .string usualPath)
            !tracer.saveFails]) := by
  rw [stop, Attempt.perform_get_bind, making]
  cases tracer.saveFails <;> rfl

-----------------------------------------------------------------------------------------
-- Telling the time
-----------------------------------------------------------------------------------------

/-- Whether the time can be told: always by a clock that is set by hand, and by the host's clock if what
it has counted since the trace began is a finite number.
-/
def isTimed (tracer : Tracer) (recording : Recording) : Bool :=
  tracer.manual.on
    || Number.isFinite (.float ((tracer.hostTime - recording.started) * 1000000000))

theorem isTimed_iff (recording : Recording)
    : tracer.isTimed recording = true ↔ ∃ time, tracer.now recording = .ok time := by
  rw [isTimed, now]
  cases tracer.manual.on with
  | true => exact iff_of_true rfl ⟨_, rfl⟩
  | false =>
      rw [Bool.false_or, if_neg Bool.false_ne_true]
      exact Number.isFinite_iff

/-- A clock that is set by hand can always be read. -/
theorem now_of_manual (byHand : tracer.manual.on = true) (recording : Recording)
    : tracer.now recording = .ok (tracer.manual.units * tracer.manual.tick) :=
  if_pos byHand

/-- To open a track takes no time, and the trace has begun no later for it. -/
theorem now_of_track {name : Json} {known : Recording} {reached : Tracer}
    (result : Tracer.track lane name recording tracer = (id, known, reached))
    : reached.now known = tracer.now recording := by
  rw [track] at result
  split at result <;> cases result <;> rfl

-----------------------------------------------------------------------------------------
-- Noting something
-----------------------------------------------------------------------------------------

theorem perform_note_of_idle (idle : tracer.recording = none) (lane : Lane) (name : Json)
    (calls : Nat → Int → List Call)
    : (note lane name calls).perform tracer = (.ok (), tracer) := by
  rw [note, Attempt.perform_get_bind, idle]
  rfl

theorem perform_note (making : tracer.recording = some recording) (calls : Nat → Int → List Call)
    {known : Recording} {reached : Tracer}
    (result : Tracer.track lane (.string name) recording tracer = (id, known, reached))
    : (note lane (.string name) calls).perform tracer
      = match tracer.now recording with
        | .ok time =>
          (.ok (), { reached with recording := some known }.record known.builder (calls id time))
        | .error reason => (.error (.misfit reason), { reached with recording := some known }) := by
  rw [note, Attempt.perform_get_bind, making]
  refine (Attempt.perform_bind_of rfl).trans ?_
  simp only [result, now_of_track result]
  cases tracer.now recording <;> rfl

-----------------------------------------------------------------------------------------
-- Setting the clock
-----------------------------------------------------------------------------------------

/-- Choosing a clock concerns nothing else. -/
theorem setManual_manual (on : Bool) (tick : Json) (tracer : Tracer)
    : ∃ manual, ((setManual on tick).perform tracer).2 = { tracer with manual } := by
  rw [setManual]
  cases tick.toInt with
  | ok length => exact ⟨_, rfl⟩
  | error reason => exact ⟨_, rfl⟩

/-- Moving the manual clock concerns nothing else. -/
theorem setUnits_manual (units : Json) (tracer : Tracer)
    : ∃ manual, ((setUnits units).perform tracer).2 = { tracer with manual } := by
  rw [setUnits, Attempt.perform_get_bind]
  cases tracer.manual.on with
  | false => exact ⟨tracer.manual, rfl⟩
  | true =>
      cases units.toInt with
      | ok position => exact ⟨_, rfl⟩
      | error reason => exact ⟨tracer.manual, rfl⟩

end Trace.Tracer

end Handheld
