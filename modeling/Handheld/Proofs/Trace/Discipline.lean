import Handheld.Proofs.Trace.Making

/-! What reaches a trace builder.
The tracer forgets its tracks with the builder that gave them out, so that each builder is asked
only for what it has given out itself, and for nothing more once its trace was to be stored.
-/

namespace Handheld.Trace.Tracer

-----------------------------------------------------------------------------------------
-- Acts and what they should come to
-----------------------------------------------------------------------------------------

/-- What can be done to a tracer. Meanwhile the host's time can move on, and the host can begin to
refuse traces or to store them again. -/
inductive Act
  | start (path : Text)
  | stop
  | stopSafely
  | instant (track : Text) (name details : Json)
  | counter (name : Text) (value : Json)
  | setManual (on : Bool) (tick : Json)
  | setUnits (units : Json)
  | host (time : Float) (saveFails : Bool)

/-- What has been done to a tracer, the latest act first. -/
abbrev History := List Act

/-- What an act does to a tracer. -/
def Act.attempt : Act → Attempt Tracer Unit
  | .start path => modify (Tracer.start (.string path))
  | .stop => Tracer.stop
  | .stopSafely => modify Tracer.stopSafely
  | .instant track name details => Tracer.instant (.string track) name details
  | .counter name value => Tracer.counter (.string name) value
  | .setManual on tick => Tracer.setManual on tick
  | .setUnits units => Tracer.setUnits units
  | .host time saveFails => modify fun tracer => { tracer with hostTime := time, saveFails }

/-- What an act makes of calls on the current builder, the latest first. Only a start makes any
while there is no trace, and it makes none during a trace. -/
def Act.Makes (tracer : Tracer) (answer : Except Error Unit) (seen made : List Call) : Act → Prop
  | .start _ =>
    if tracer.enabled then made = []
    else ∃ openings, made = openings ++ [.builder "DMG Core"]
      ∧ ∀ call ∈ openings, ∃ lane name id, call = Lane.opening name id lane
  | .stop | .stopSafely =>
    if tracer.enabled then ∃ target, made = [.save target !tracer.saveFails] else made = []
  | .instant track name details =>
    match tracer.recording with
    | none => made = []
    | some recording =>
      Notes .thread track (fun id time =>
          .instant id name time :: if details.isOn then [.annotate details] else [])
        tracer recording answer seen made
  | .counter name value =>
    match tracer.recording with
    | none => made = []
    | some recording =>
      Notes .counter name (fun id time => [.update id value time]) tracer recording answer seen made
  | .setManual _ _ | .setUnits _ | .host _ _ => made = []

namespace History

/-- Where a history leads a tracer. Its builders number their tracks as they like. -/
def replay (numbering : Nat → Nat → Nat) (history : History) : Tracer :=
  history.foldr (fun act tracer => (act.attempt.perform tracer).2) { numbering }

/-- A trace is in the making. -/
def isRunning : History → Bool
  | [] => false
  | .start _ :: _ => true
  | .stop :: _ | .stopSafely :: _ => false
  | _ :: earlier => isRunning earlier

/-- The paths of all traces that have been started, in order. -/
def paths : History → List Text
  | [] => []
  | .start path :: earlier =>
    if isRunning earlier then paths earlier else paths earlier ++ [path]
  | _ :: earlier => paths earlier

/-- A tracer has made one builder for each trace, and the calls on each of them are in order. -/
structure Disciplined (history : History) (tracer : Tracer) : Prop where
  enabled : tracer.enabled = history.isRunning
  builders : tracer.builders = history.paths.length
  orderly : ∀ builder path, history.paths[builder]? = some path
    → tracer.callsOn builder ≠ [] ∧ Call.Orderly path (tracer.callsOn builder)
  unborn : ∀ builder, history.paths.length ≤ builder → tracer.callsOn builder = []

-----------------------------------------------------------------------------------------
-- What one act keeps
-----------------------------------------------------------------------------------------

variable {lane : Lane} {path : Text} {tracer : Tracer} {history : History}

/-- The calls on all builders are in order, and the tracer knows which tracks the trace in the
making has. -/
structure Keeps (history : History) (tracer : Tracer) : Prop
    extends history.Disciplined tracer where
  making : ∀ recording, tracer.recording = some recording
    → ∃ path, history.paths[recording.builder]? = some path ∧ Making path recording tracer

/-- An act makes calls on one builder, which has been there already or has just come about. -/
theorem Disciplined.extend (disciplined : history.Disciplined tracer) {act : Act} {after : Tracer}
    {builder : Nat} {made : List Call}
    (enabled : after.enabled = isRunning (act :: history))
    (builders : after.builders = (paths (act :: history)).length)
    (grown : history.paths.length ≤ (paths (act :: history)).length)
    (others : ∀ other, other ≠ builder → (paths (act :: history))[other]? = history.paths[other]?)
    (calls : after.calls = made.map (Entry.mk builder) ++ tracer.calls)
    (given : (paths (act :: history))[builder]? = some path)
    (begun : after.callsOn builder ≠ [])
    (orderly : Call.Orderly path (after.callsOn builder))
    : Disciplined (act :: history) after where
  enabled := enabled
  builders := builders
  orderly := by
    intro other target known
    by_cases here : other = builder
    · rw [here, given] at known
      cases known
      rw [here]
      exact ⟨begun, orderly⟩
    · rw [others other here] at known
      rw [callsOn_of_calls_of_ne calls here]
      exact disciplined.orderly other target known
  unborn := by
    intro other beyond
    have elsewhere : other ≠ builder := by
      rintro rfl
      rw [List.getElem?_eq_none beyond] at given
      cases given
    rw [callsOn_of_calls_of_ne calls elsewhere]
    exact disciplined.unborn other (Nat.le_trans grown beyond)

/-- An act makes calls on the builder of the trace in the making. -/
theorem Disciplined.goesOn (disciplined : history.Disciplined tracer) {act : Act} {after : Tracer}
    {builder : Nat} {made : List Call} (same : paths (act :: history) = history.paths)
    (enabled : after.enabled = isRunning (act :: history))
    (builders : after.builders = tracer.builders)
    (calls : after.calls = made.map (Entry.mk builder) ++ tracer.calls)
    (given : history.paths[builder]? = some path)
    (orderly : Call.Orderly path (after.callsOn builder))
    : Disciplined (act :: history) after := by
  refine disciplined.extend enabled ?_ ?_ ?_ calls ?_ ?_ orderly
  · rw [builders, disciplined.builders, same]
  · exact Nat.le_of_eq (congrArg List.length same.symm)
  · intro other elsewhere
    rw [same]
  · rw [same, given]
  · rw [callsOn_of_calls calls]
    exact List.append_ne_nil_of_right_ne_nil _ (disciplined.orderly builder path given).1

/-- The clock and the host have nothing to do with the calls on builders. -/
theorem Keeps.idle (keeps : history.Keeps tracer) {act : Act} {after : Tracer}
    (same : paths (act :: history) = history.paths)
    (running : isRunning (act :: history) = history.isRunning)
    (left : ∃ manual hostTime saveFails,
      after = { tracer with manual, hostTime, saveFails })
    : Keeps (act :: history) after := by
  obtain ⟨manual, hostTime, saveFails, rfl⟩ := left
  refine ⟨⟨running ▸ keeps.enabled, same ▸ keeps.builders, same ▸ keeps.orderly,
    same ▸ keeps.unborn⟩, ?_⟩
  intro recording current
  obtain ⟨path, given, making⟩ := keeps.making recording current
  exact ⟨path, same ▸ given, making.congr rfl rfl⟩

/-- What has to be shown of an act: the calls stay in order, and the new ones are those that the act
is to make. -/
def Passes (history : History) (tracer : Tracer) (act : Act)
    (outcome : Except Error Unit × Tracer) : Prop :=
  Keeps (act :: history) outcome.2
    ∧ ∃ made, outcome.2.calls = made.map (Entry.mk outcome.2.current) ++ tracer.calls
      ∧ act.Makes tracer outcome.1 (outcome.2.callsOn outcome.2.current) made

/-- An act that should make no calls makes none. -/
theorem Passes.of_idle (keeps : history.Keeps tracer) {act : Act}
    {outcome : Except Error Unit × Tracer}
    (same : paths (act :: history) = history.paths)
    (running : isRunning (act :: history) = history.isRunning)
    (left : ∃ manual hostTime saveFails,
      outcome.2 = { tracer with manual, hostTime, saveFails })
    (silent : act.Makes tracer outcome.1 (outcome.2.callsOn outcome.2.current) [])
    : Passes history tracer act outcome := by
  refine ⟨keeps.idle same running left, [], ?_, silent⟩
  obtain ⟨manual, hostTime, saveFails, state⟩ := left
  rw [state]
  rfl

/-- A note about a track of the trace in the making. -/
theorem Passes.note (keeps : history.Keeps tracer) {act : Act} {calls : Nat → Int → List Call}
    (same : paths (act :: history) = history.paths)
    (continues : isRunning (act :: history) = history.isRunning)
    (about : ∀ id time, ∀ call ∈ calls id time, call.IsAbout lane id)
    (makes : ∀ answer seen made, act.Makes tracer answer seen made
      ↔ match tracer.recording with
        | none => made = []
        | some recording => Notes lane name calls tracer recording answer seen made)
    : Passes history tracer act ((Tracer.note lane (.string name) calls).perform tracer) := by
  cases running : tracer.recording with
  | none =>
      rw [perform_note_of_idle running]
      refine .of_idle keeps same continues ⟨_, _, _, rfl⟩ ?_
      rw [makes, running]
  | some recording =>
      obtain ⟨path, given, making⟩ := keeps.making recording running
      rcases result : (Tracer.note lane (.string name) calls).perform tracer with ⟨answer, after⟩
      obtain ⟨known, made, kept, written, own, builders, added, notes⟩ :=
        making.note running about result
      have here : after.current = recording.builder := written.current.trans own
      have on : tracer.enabled = true := enabled_of_running running
      have given' : (paths (act :: history))[known.builder]? = some path := by
        rw [same, own, given]
      refine ⟨⟨keeps.goesOn same ?_ builders added given ?_, ?_⟩, made, ?_, ?_⟩
      · rw [continues, ← keeps.enabled, on, enabled, kept]
        rfl
      · rw [← own]
        exact written.orderly
      · intro other current
        rw [kept] at current
        cases current
        exact ⟨path, given', written⟩
      · rw [here]
        exact added
      · rw [makes, running, here]
        exact notes

theorem Passes.stop (keeps : history.Keeps tracer) {act : Act}
    (same : paths (act :: history) = history.paths) (ends : isRunning (act :: history) = false)
    (makes : ∀ answer seen made, act.Makes tracer answer seen made
      ↔ if tracer.enabled then ∃ target, made = [.save target !tracer.saveFails] else made = [])
    {outcome : Except Error Unit × Tracer} (left : outcome.2 = (Tracer.stop.perform tracer).2)
    : Passes history tracer act outcome := by
  obtain ⟨answer, after⟩ := outcome
  cases left
  cases running : tracer.recording with
  | none =>
      rw [perform_stop_of_idle running]
      have off : tracer.enabled = false := enabled_of_idle running
      refine .of_idle keeps same ?_ ⟨_, _, _, rfl⟩ ?_
      · rw [ends, ← keeps.enabled, off]
      · rw [makes, if_neg (by simp [off])]
  | some recording =>
      obtain ⟨path, given, making⟩ := keeps.making recording running
      rw [perform_stop running]
      have on : tracer.enabled = true := enabled_of_running running
      have here : tracer.current = recording.builder := making.current
      have usual : (if recording.path.isOn then recording.path else .string usualPath)
          = .string (if path.isEmpty then (usualPath : Text) else path) := by
        rw [making.given, Json.isOn]
        cases path.isEmpty <;> rfl
      rw [usual]
      set saved := Call.save (.string (if path.isEmpty then (usualPath : Text) else path))
        !tracer.saveFails
      have added := calls_record recording.builder [saved]
        { tracer with recording := none, manual := {} }
      refine ⟨⟨keeps.goesOn same ends.symm rfl added given ?_, nofun⟩, [saved], ?_, ?_⟩
      · rw [callsOn_record]
        exact ⟨⟨making.live, rfl⟩, making.orderly⟩
      · refine added.trans ?_
        rw [← here]
        rfl
      · rw [makes, if_pos on]
        exact ⟨_, rfl⟩

/-- A builder that has just been made has opened nothing. -/
theorem Keeps.begun (keeps : history.Keeps tracer) (path : Text)
    : Making path (tracer.begun (.string path)).1 (tracer.begun (.string path)).2 := by
  have none : tracer.callsOn tracer.builders = [] :=
    keeps.unborn tracer.builders (Nat.le_of_eq keeps.builders.symm)
  have seen : (tracer.begun (.string path)).2.callsOn tracer.builders = [.builder "DMG Core"] := by
    rw [Tracer.begun, callsOn_record]
    exact congrArg _ none
  have own : (tracer.begun (.string path)).1.builder = tracer.builders := rfl
  refine ⟨rfl, rfl, ?_, ?_, ?_⟩
  · rw [own, seen]
    exact ⟨⟨rfl, rfl⟩, trivial⟩
  · rw [own, seen]
    exact ⟨List.cons_ne_nil _ _, by simp⟩
  · intro lane name id
    rw [own, seen]
    cases lane <;> simp [Lane.opening, Tracer.begun]

/-- A start during no trace makes a builder and opens the first tracks with it. -/
theorem Keeps.begins (keeps : history.Keeps tracer) (idle : tracer.recording = none) (path : Text)
    : ∃ known openings,
        (∀ call ∈ openings, ∃ lane name id, call = Lane.opening name id lane)
        ∧ (tracer.start (.string path)).recording = some known
        ∧ known.builder = tracer.builders
        ∧ Making path known (tracer.start (.string path))
        ∧ (tracer.start (.string path)).calls
          = (openings ++ [Call.builder "DMG Core"]).map (Entry.mk tracer.builders)
            ++ tracer.calls := by
  rcases opening : firstTracks.foldl (fun state name =>
      (track name.1 (.string name.2) state.1 state.2).2) (tracer.begun (.string path))
    with ⟨known, reached⟩
  obtain ⟨same, reaching, openings, opens, left⟩ := (keeps.begun path).openAll firstTracks opening
  rw [start_of_idle idle opening]
  refine ⟨known, openings.reverse, fun call member => opens call (List.mem_reverse.mp member),
    rfl, same, reaching.congr rfl rfl, ?_⟩
  have all : reached.calls = ((tracer.begun (.string path)).2.record tracer.builders openings).calls
    := congrArg _ left
  have made : (tracer.begun (.string path)).2.calls
      = [Call.builder "DMG Core"].map (Entry.mk tracer.builders) ++ tracer.calls :=
    calls_record ..
  rw [List.map_append, List.append_assoc, ← made, ← calls_record]
  exact all

theorem Passes.start (keeps : history.Keeps tracer) (path : Text)
    : Passes history tracer (.start path) (.ok (), tracer.start (.string path)) := by
  cases running : tracer.recording with
  | some recording =>
      have on : tracer.enabled = true := enabled_of_running running
      have goes : history.isRunning = true := keeps.enabled.symm.trans on
      rw [start_of_running running]
      refine .of_idle keeps ?_ ?_ ⟨_, _, _, rfl⟩ ?_
      · rw [paths, if_pos goes]
      · rw [goes]
        rfl
      · rw [Act.Makes, if_pos on]
  | none =>
      have off : tracer.enabled = false := enabled_of_idle running
      have rests : history.isRunning = false := keeps.enabled.symm.trans off
      have more : paths (.start path :: history) = history.paths ++ [path] := by
        rw [paths, rests]
        rfl
      obtain ⟨known, openings, opens, current, own, making, added⟩ := keeps.begins running path
      have here : (tracer.start (.string path)).current = tracer.builders :=
        making.current.trans own
      have given : (paths (.start path :: history))[tracer.builders]? = some path := by
        rw [more, keeps.builders, List.getElem?_concat_length]
      refine ⟨⟨keeps.extend ?_ ?_ ?_ ?_ added given ?_ ?_, ?_⟩,
        openings ++ [.builder "DMG Core"], ?_, ?_⟩
      · rw [enabled, current]
        rfl
      · rw [more, List.length_append, ← keeps.builders, ← own]
        exact making.latest.symm
      · rw [more, List.length_append]
        exact Nat.le_add_right _ _
      · intro other elsewhere
        rw [keeps.builders] at elsewhere
        rw [more, List.getElem?_append]
        split
        case isTrue => rfl
        case isFalse beyond =>
          have after_last : history.paths.length < other :=
            Nat.lt_of_le_of_ne (Nat.not_lt.mp beyond) elsewhere.symm
          rw [List.getElem?_eq_none (Nat.le_of_lt after_last), List.getElem?_eq_none]
          exact Nat.sub_pos_of_lt after_last
      · rw [← own]
        exact making.live.1
      · rw [← own]
        exact making.orderly
      · intro recording same
        rw [current] at same
        cases same
        exact ⟨path, own ▸ given, making⟩
      · rw [here]
        exact added
      · rw [Act.Makes, if_neg (by simp [off])]
        exact ⟨openings, rfl, opens⟩

/-- Every act keeps the calls on all builders in order. -/
theorem Keeps.passes (keeps : history.Keeps tracer) (act : Act)
    : Passes history tracer act (act.attempt.perform tracer) := by
  cases act with
  | start path => exact .start keeps path
  | stop => exact .stop keeps rfl rfl (fun _ _ _ => by rw [Act.Makes]) rfl
  | stopSafely => exact .stop keeps rfl rfl (fun _ _ _ => by rw [Act.Makes]) rfl
  | instant track name details =>
      rw [Act.attempt, Tracer.instant]
      refine .note keeps rfl rfl ?_ fun _ _ _ => by rw [Act.Makes]
      intro id time call member
      rcases List.mem_cons.mp member with rfl | annotation
      · exact Call.isAbout_instant ..
      · split at annotation
        case isTrue =>
          rw [List.mem_singleton.mp annotation]
          exact Call.isAbout_annotate ..
        case isFalse => cases annotation
  | counter name value =>
      rw [Act.attempt, Tracer.counter]
      refine .note keeps rfl rfl ?_ fun _ _ _ => by rw [Act.Makes]
      intro id time call member
      rw [List.mem_singleton.mp member]
      exact Call.isAbout_update ..
  | setManual on tick =>
      obtain ⟨manual, left⟩ := setManual_manual on tick tracer
      exact .of_idle keeps rfl rfl ⟨manual, _, _, left⟩ rfl
  | setUnits units =>
      obtain ⟨manual, left⟩ := setUnits_manual units tracer
      exact .of_idle keeps rfl rfl ⟨manual, _, _, left⟩ rfl
  | host time saveFails => exact .of_idle keeps rfl rfl ⟨_, _, _, rfl⟩ rfl

theorem keeps_replay (numbering : Nat → Nat → Nat) (history : History)
    : history.Keeps (history.replay numbering) := by
  induction history with
  | nil => exact ⟨⟨rfl, rfl, nofun, fun _ _ => rfl⟩, nofun⟩
  | cons act earlier hypothesis => exact (hypothesis.passes act).1

/-- Whatever is done to a tracer, and however often its traces cannot be stored: every trace gets a
builder of its own and keeps to it. Witness: the calls on a builder are read from the latest to the
first, and each of them may be made after those before it, because the tracer knows just those
tracks that have been opened with the builder in use. -/
theorem replay_disciplined (numbering : Nat → Nat → Nat) (history : History)
    : history.Disciplined (history.replay numbering)
      ∧ ∀ act, ∃ made,
        (replay numbering (act :: history)).calls
          = made.map (Entry.mk (replay numbering (act :: history)).current)
            ++ (history.replay numbering).calls
        ∧ act.Makes (history.replay numbering)
          (act.attempt.perform (history.replay numbering)).1
          ((replay numbering (act :: history)).callsOn
            (replay numbering (act :: history)).current)
          made := by
  have keeps := keeps_replay numbering history
  exact ⟨keeps.toDisciplined, fun act => (keeps.passes act).2⟩

/-- By a clock that is set by hand, what happens on a track that is not among the first ones reaches
the builder of the trace, with the time of that clock.
-/
theorem replay_disciplined_timed
    : let history : History := [.setUnits (.int 7), .setManual true (.int 3), .start "trace"]
      let tracer := history.replay fun _ place => place
      history.Disciplined tracer
        ∧ ∃ id opened,
          (replay (fun _ place => place) (.instant "Joypad" (.string "key") .null :: history)).calls
            = (Call.instant id (.string "key") 21 :: opened).map (Entry.mk 0) ++ tracer.calls := by
  intro history tracer
  obtain ⟨disciplined, acts⟩ := replay_disciplined (fun _ place => place) history
  obtain ⟨made, added, makes⟩ := acts (.instant "Joypad" (.string "key") .null)
  refine ⟨disciplined, ?_⟩
  have byHand : tracer.manual = ⟨true, 7, 3⟩ := rfl
  cases running : tracer.recording with
  | none => cases disciplined.enabled.symm.trans (enabled_of_idle running)
  | some recording =>
      have told : tracer.now recording = .ok 21 := by
        rw [now_of_manual (by rw [byHand]), byHand]
        rfl
      rw [Act.Makes, running] at makes
      obtain ⟨id, opened, -, -, noted⟩ := makes
      rw [told] at noted
      obtain ⟨-, rfl⟩ := noted
      exact ⟨id, opened, added⟩

end History

end Handheld.Trace.Tracer
