import Handheld.Proofs.Trace.Recording
import Mathlib.Data.List.Basic

/-! A trace in the making.
The calls on a builder are in order if each of them may be made after those before it; they stay so
because the tracer knows just those tracks that have been opened with the builder in use.
-/

namespace Handheld

/-- Nothing but a text is the same as that text. -/
theorem Json.same_string {known : Json} {text : Text}
    : known.same (.string text) = true ↔ known = .string text := by
  cases known with
  | string other => simp [same]
  | null | bool _ | number _ | array _ | object _ => simp [same]

namespace Trace

/-- The calls that were made on a builder, the latest first. -/
def Tracer.callsOn (builder : Nat) (tracer : Tracer) : List Call :=
  (tracer.calls.filter (·.builder = builder)).map (·.call)

namespace Call

/-- A builder has been made, and there has been no attempt to store its trace. -/
def Live (earlier : List Call) : Prop :=
  earlier ≠ [] ∧ ∀ target stored, .save target stored ∉ earlier

/-- A call may be made on a builder after other ones. The path is that of the trace. -/
def Follows (path : Text) (earlier : List Call) : Call → Prop
  | .builder title => earlier = [] ∧ title = "DMG Core"
  | .thread name _ => Live earlier ∧ ∀ id, .thread name id ∉ earlier
  | .counterTrack name unit _ =>
    Live earlier ∧ unit = "count" ∧ ∀ other id, .counterTrack name other id ∉ earlier
  | .instant track _ _ => Live earlier ∧ ∃ name, .thread name track ∈ earlier
  | .annotate _ => Live earlier
  | .update track _ _ => Live earlier ∧ ∃ name unit, .counterTrack name unit track ∈ earlier
  | .save target _ =>
    Live earlier ∧ target = .string (if path.isEmpty then (usualPath : Text) else path)

/-- Every call on a builder, the latest first, may be made after those before it. -/
def Orderly (path : Text) : List Call → Prop
  | [] => True
  | call :: earlier => call.Follows path earlier ∧ Orderly path earlier

end Call

-----------------------------------------------------------------------------------------
-- Calls in order
-----------------------------------------------------------------------------------------

theorem Lane.opening_inj {lane other : Lane} {name text : Json} {id number : Nat}
    : lane.opening name id = other.opening text number
      ↔ lane = other ∧ name = text ∧ id = number := by
  cases lane <;> cases other <;> simp [opening]

namespace Call

theorem Live.cons {call : Call} {earlier : List Call} (live : Live earlier)
    (unsaved : ∀ target stored, call ≠ .save target stored)
    : Live (call :: earlier) := by
  refine ⟨List.cons_ne_nil _ _, fun target stored member => ?_⟩
  rcases List.mem_cons.mp member with same | old
  · exact unsaved target stored same.symm
  · exact live.2 target stored old

/-- A call neither opens a track nor ends the trace. -/
def IsQuiet (call : Call) : Prop :=
  (∀ lane name id, call ≠ Lane.opening name id lane)
    ∧ ∀ target stored, call ≠ .save target stored

/-- A call says something about a track with a given number, which may be said once that track has
been opened. -/
def IsAbout (lane : Lane) (id : Nat) (call : Call) : Prop :=
  call.IsQuiet
    ∧ ∀ path {earlier}, Live earlier → (∃ name, lane.opening name id ∈ earlier) →
      call.Follows path earlier

theorem isAbout_instant (id : Nat) (name : Json) (time : Int)
    : (instant id name time).IsAbout .thread id :=
  ⟨⟨fun lane _ _ => by cases lane <;> nofun, nofun⟩, fun _ _ live opened => ⟨live, opened⟩⟩

theorem isAbout_annotate (lane : Lane) (id : Nat) (details : Json)
    : (annotate details).IsAbout lane id :=
  ⟨⟨fun lane _ _ => by cases lane <;> nofun, nofun⟩, fun _ _ live _ => live⟩

theorem isAbout_update (id : Nat) (value : Json) (time : Int)
    : (update id value time).IsAbout .counter id :=
  ⟨⟨fun lane _ _ => by cases lane <;> nofun, nofun⟩,
    fun _ _ live opened => ⟨live, opened.imp fun _ member => ⟨"count", member⟩⟩⟩

/-- All counters count in the same unit. -/
theorem Orderly.unit {path : Text} {calls : List Call} {name : Json} {unit : String} {id : Nat}
    (orderly : Orderly path calls) (member : .counterTrack name unit id ∈ calls)
    : unit = "count" := by
  induction calls with
  | nil => cases member
  | cons call earlier hypothesis =>
      rcases List.mem_cons.mp member with rfl | old
      · exact orderly.1.2.1
      · exact hypothesis orderly.2 old

end Call

namespace Tracer

/-- The builder that came about last. -/
def current (tracer : Tracer) : Nat := tracer.builders - 1

/-- Calls on a builder about one of its tracks, the latest first: the track is opened if need be,
and what is said about it goes to the number that was given out for its name, with the time that the
clock tells. Nothing is said about it only if the time cannot be told, and the host learns why. -/
def Notes (lane : Lane) (name : Text) (calls : Nat → Int → List Call) (tracer : Tracer)
    (recording : Recording) (answer : Except Error Unit) (seen made : List Call) : Prop :=
  ∃ id opened,
    lane.opening (.string name) id ∈ seen
    ∧ (opened = [] ∨ opened = [lane.opening (.string name) id])
    ∧ match tracer.now recording with
      | .ok time => answer = .ok () ∧ made = (calls id time).reverse ++ opened
      | .error reason =>
        tracer.isTimed recording = false ∧ answer = .error (.misfit reason) ∧ made = opened

-----------------------------------------------------------------------------------------
-- The calls on one builder
-----------------------------------------------------------------------------------------

section Record

variable {builder other : Nat} {made : List Call} {tracer after : Tracer}

theorem callsOn_of_calls (calls : after.calls = made.map (Entry.mk builder) ++ tracer.calls)
    : after.callsOn builder = made ++ tracer.callsOn builder := by
  have all : (made.map (Entry.mk builder)).filter (·.builder = builder)
      = made.map (Entry.mk builder) := List.filter_eq_self.mpr (by simp)
  rw [callsOn, calls, List.filter_append, all, List.map_append, List.map_map, callsOn]
  exact congrArg (· ++ _) made.map_id

theorem callsOn_of_calls_of_ne
    (calls : after.calls = made.map (Entry.mk builder) ++ tracer.calls)
    (elsewhere : other ≠ builder)
    : after.callsOn other = tracer.callsOn other := by
  have none : (made.map (Entry.mk builder)).filter (·.builder = other) = [] :=
    List.filter_eq_nil_iff.mpr (by simp [elsewhere.symm])
  rw [callsOn, calls, List.filter_append, none, List.nil_append, callsOn]

theorem callsOn_record (builder : Nat) (calls : List Call) (tracer : Tracer)
    : (tracer.record builder calls).callsOn builder
      = calls.reverse ++ tracer.callsOn builder :=
  callsOn_of_calls (calls_record builder calls tracer)

end Record

-----------------------------------------------------------------------------------------
-- Opening tracks
-----------------------------------------------------------------------------------------

variable {lane : Lane} {name path : Text} {tracks : List (Lane × Json × Nat)} {id : Nat}
  {recording : Recording} {tracer : Tracer}

theorem mem_of_numberOf? (known : numberOf? lane (.string name) tracks = some id)
    : (lane, .string name, id) ∈ tracks := by
  obtain ⟨⟨other, text, number⟩, member, found⟩ := List.exists_of_findSome?_eq_some known
  simp only [Option.ite_none_right_eq_some, Option.some.injEq, Json.same_string] at found
  obtain ⟨⟨rfl, rfl⟩, rfl⟩ := found
  exact member

theorem not_mem_of_numberOf? (unknown : numberOf? lane (.string name) tracks = none) (id : Nat)
    : (lane, .string name, id) ∉ tracks := by
  intro member
  have missed := List.findSome?_eq_none_iff.mp unknown _ member
  simp [Json.same] at missed

/-- A trace is in the making: its builder is the latest one, and the tracks are known that were
opened with it. -/
structure Making (path : Text) (recording : Recording) (tracer : Tracer) : Prop where
  given : recording.path = .string path
  latest : recording.builder + 1 = tracer.builders
  orderly : Call.Orderly path (tracer.callsOn recording.builder)
  live : Call.Live (tracer.callsOn recording.builder)
  opened : ∀ lane name id, (lane, name, id) ∈ recording.tracks
    ↔ lane.opening name id ∈ tracer.callsOn recording.builder

namespace Making

/-- A call that neither opens a track nor ends the trace changes nothing about it. -/
theorem record {call : Call} (making : Making path recording tracer)
    (follows : call.Follows path (tracer.callsOn recording.builder)) (quiet : call.IsQuiet)
    : Making path recording (tracer.record recording.builder [call]) where
  given := making.given
  latest := making.latest
  orderly := by
    rw [callsOn_record]
    exact ⟨follows, making.orderly⟩
  live := by
    rw [callsOn_record]
    exact making.live.cons quiet.2
  opened := by
    intro lane name id
    rw [callsOn_record, List.reverse_singleton, List.singleton_append, List.mem_cons,
      making.opened]
    exact ⟨.inr, fun member => member.resolve_left fun same => quiet.1 lane name id same.symm⟩

/-- A new track may be opened. -/
theorem follows_opening (making : Making path recording tracer)
    (unknown : ∀ id, (lane, .string name, id) ∉ recording.tracks) (id : Nat)
    : (lane.opening (.string name) id).Follows path (tracer.callsOn recording.builder) := by
  cases lane with
  | thread =>
      exact ⟨making.live, fun other member => unknown other ((making.opened ..).mpr member)⟩
  | counter =>
      refine ⟨making.live, rfl, fun unit other member => ?_⟩
      have usual : unit = "count" := making.orderly.unit member
      rw [usual] at member
      exact unknown other ((making.opened ..).mpr member)

theorem openTrack (making : Making path recording tracer)
    (unknown : ∀ id, (lane, .string name, id) ∉ recording.tracks) (id : Nat)
    : Making path { recording with tracks := recording.tracks ++ [(lane, .string name, id)] }
        (tracer.record recording.builder [lane.opening (.string name) id]) where
  given := making.given
  latest := making.latest
  orderly := by
    rw [callsOn_record]
    exact ⟨making.follows_opening unknown id, making.orderly⟩
  live := by
    rw [callsOn_record]
    exact making.live.cons fun _ _ => by cases lane <;> nofun
  opened := by
    intro other text number
    rw [callsOn_record, List.reverse_singleton, List.singleton_append, List.mem_cons,
      List.mem_append, List.mem_singleton, making.opened, Lane.opening_inj, Prod.mk.injEq,
      Prod.mk.injEq, or_comm]

/-- A track is opened once, and its number is the one that was given out for its name. -/
theorem track (making : Making path recording tracer) (lane : Lane) (name : Text)
    {id : Nat} {known : Recording} {reached : Tracer}
    (result : Tracer.track lane (.string name) recording tracer = (id, known, reached))
    : known.builder = recording.builder
      ∧ Making path known reached
      ∧ lane.opening (.string name) id ∈ reached.callsOn recording.builder
      ∧ ∃ made, (made = [] ∨ made = [lane.opening (.string name) id])
        ∧ reached = tracer.record recording.builder made := by
  rw [Tracer.track] at result
  cases found : numberOf? lane (.string name) recording.tracks with
  | some number =>
      rw [found] at result
      cases result
      exact ⟨rfl, making, (making.opened ..).mp (mem_of_numberOf? found), [], .inl rfl, rfl⟩
  | none =>
      rw [found] at result
      cases result
      refine ⟨rfl, making.openTrack (not_mem_of_numberOf? found) _, ?_, _, .inr rfl, rfl⟩
      rw [callsOn_record]
      exact List.mem_cons_self

/-- The first tracks are opened one after the other. -/
theorem openAll (making : Making path recording tracer) (names : List (Lane × Text))
    {known : Recording} {reached : Tracer}
    (result : names.foldl (fun state name =>
        (Tracer.track name.1 (.string name.2) state.1 state.2).2) (recording, tracer)
      = (known, reached))
    : known.builder = recording.builder
      ∧ Making path known reached
      ∧ ∃ made, (∀ call ∈ made, ∃ lane name id, call = Lane.opening name id lane)
        ∧ reached = tracer.record recording.builder made := by
  induction names generalizing recording tracer with
  | nil =>
      cases result
      exact ⟨rfl, making, [], nofun, rfl⟩
  | cons first rest hypothesis =>
      rw [List.foldl_cons] at result
      rcases step : Tracer.track first.1 (.string first.2) recording tracer
        with ⟨id, recording', tracer'⟩
      obtain ⟨same, making', -, made, opening, rfl⟩ := making.track _ _ step
      rw [step] at result
      obtain ⟨same', finished, later, openings, rfl⟩ := hypothesis making' result
      refine ⟨same'.trans same, finished, made ++ later, ?_, ?_⟩
      · intro call member
        rcases List.mem_append.mp member with old | new
        · rcases opening with rfl | rfl
          · cases old
          · exact ⟨_, _, _, List.mem_singleton.mp old⟩
        · exact openings call new
      · rw [same, record_append]

theorem congr {other : Tracer} (making : Making path recording tracer)
    (calls : other.calls = tracer.calls) (builders : other.builders = tracer.builders)
    : Making path recording other := by
  have same : other.callsOn recording.builder = tracer.callsOn recording.builder := by
    rw [callsOn, calls, ← callsOn]
  obtain ⟨given, latest, orderly, live, opened⟩ := making
  rw [← same] at orderly live
  simp only [← same] at opened
  exact ⟨given, latest.trans builders.symm, orderly, live, opened⟩

theorem current (making : Making path recording tracer)
    : tracer.current = recording.builder := by
  rw [Tracer.current, ← making.latest, Nat.add_sub_cancel]

theorem recordAll (making : Making path recording tracer) {calls : List Call}
    (about : ∀ call ∈ calls, call.IsAbout lane id)
    (opening : lane.opening (.string name) id ∈ tracer.callsOn recording.builder)
    : Making path recording (tracer.record recording.builder calls) := by
  induction calls generalizing tracer with
  | nil => exact making
  | cons call rest hypothesis =>
      rw [← List.singleton_append, record_append]
      have follows := (about call List.mem_cons_self).2 path making.live ⟨_, opening⟩
      refine hypothesis (making.record follows (about call List.mem_cons_self).1)
        (fun other member => about other (List.mem_cons_of_mem _ member)) ?_
      rw [callsOn_record]
      exact List.mem_cons_of_mem _ opening

/-- A note about a track keeps the trace in order. -/
theorem note (making : Making path recording tracer)
    (running : tracer.recording = some recording) {calls : Nat → Int → List Call}
    (about : ∀ id time, ∀ call ∈ calls id time, call.IsAbout lane id)
    {answer : Except Error Unit} {after : Tracer}
    (result : (note lane (.string name) calls).perform tracer = (answer, after))
    : ∃ known made, after.recording = some known
      ∧ Making path known after
      ∧ known.builder = recording.builder
      ∧ after.builders = tracer.builders
      ∧ after.calls = made.map (Entry.mk recording.builder) ++ tracer.calls
      ∧ Notes lane name calls tracer recording answer (after.callsOn recording.builder) made := by
  rcases step : Tracer.track lane (.string name) recording tracer with ⟨id, known, reached⟩
  obtain ⟨same, reaching, opening, opened, once, rfl⟩ := making.track lane name step
  rw [perform_note running calls step] at result
  have mirrored : opened.reverse = opened := by rcases once with rfl | rfl <;> rfl
  have before : (tracer.record recording.builder opened).calls
      = opened.map (Entry.mk recording.builder) ++ tracer.calls := by
    rw [calls_record, mirrored]
  have kept : Making path known
      { tracer.record recording.builder opened with recording := some known } :=
    reaching.congr rfl rfl
  cases told : tracer.now recording with
  | error reason =>
      have timeless : tracer.isTimed recording = false := by
        refine Bool.eq_false_iff.mpr fun timed => ?_
        obtain ⟨time, tells⟩ := (isTimed_iff recording).mp timed
        cases told.symm.trans tells
      rw [told] at result
      cases result
      refine ⟨known, opened, rfl, kept, same, rfl, before, id, opened, opening, once, ?_⟩
      rw [told]
      exact ⟨timeless, rfl, rfl⟩
  | ok time =>
      rw [told] at result
      cases result
      have known_opening : lane.opening (.string name) id ∈ callsOn known.builder
          { tracer.record recording.builder opened with recording := some known } := by
        rw [same]
        exact opening
      have written := kept.recordAll (about id time) known_opening
      refine ⟨known, (calls id time).reverse ++ opened, rfl, written, same, rfl, ?_, id, opened,
        ?_, once, ?_⟩
      · rw [calls_record, List.map_append, List.append_assoc, ← before, same]
      · have seen := List.mem_append_right (calls id time).reverse known_opening
        rw [← callsOn_record, same] at seen
        rw [same]
        exact seen
      · rw [told]
        exact ⟨rfl, rfl⟩

end Making

end Tracer

end Trace

end Handheld
