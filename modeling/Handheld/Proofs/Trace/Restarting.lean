import Handheld.Proofs.Trace.Recording
import Handheld.Trace.Hub
import Mathlib.Data.List.Basic

/-! A start that comes while a trace is in the making.
No second trace begins, but the clock of the first one is set back, which shows in the time stamps
until the clock is set again.
-/

namespace Handheld

/-- A path in its plain form is never empty. -/
theorem Text.isEmpty_plainPath (path : Text) : path.plainPath.isEmpty = false := by
  rw [plainPath]
  split
  case isTrue => rfl
  case isFalse inhabited => exact Bool.not_eq_true _ ▸ inhabited

namespace Trace

-----------------------------------------------------------------------------------------
-- What is announced
-----------------------------------------------------------------------------------------

/-- What can be announced by way of a hub. Paths, names, numbers and cycles are of their own sorts. -/
inductive Announcement
  | start (path : Text)
  | stop
  | instant (thread name : Text) (details : List (Text × Json))
  | counter (name : Text) (value : Number) (thread : Text)
  | clock (cycles : Nat)

namespace Announcement

/-- The event of an announcement. -/
def event : Announcement → Event
  | .start path => .start path
  | .stop => .stop
  | .instant thread name details => .instant (.string thread) (.string name) (.object details)
  | .counter name value thread => .counter (.string name) (.number value) (.string thread)
  | .clock cycles => .clock (.int cycles)

/-- An announcement is noted in a trace with the time. -/
def isNote : Announcement → Bool
  | .instant _ _ _ | .counter _ _ _ => true
  | .start _ | .stop | .clock _ => false

/-- Whether there is a trace after an announcement. -/
def leaves (enabled : Bool) : Announcement → Bool
  | .start _ => true
  | .stop => false
  | .instant _ _ _ | .counter _ _ _ | .clock _ => enabled

/-- What an announcement makes of the manual clock. A start sets it back even during a trace. -/
def turns (enabled : Bool) (manual : ManualClock) : Announcement → ManualClock
  | .start _ => { on := true, units := 0, tick := Tracer.cycleTime }
  | .stop => if enabled then {} else manual
  | .clock cycles => if manual.on then { manual with units := cycles } else manual
  | .instant _ _ _ | .counter _ _ _ => manual

end Announcement

/-- What can happen. Between announcements the host's time can move on, and the host can begin to
refuse traces or to store them again. -/
inductive Happening
  | announce (announcement : Announcement)
  | host (time : Float) (saveFails : Bool)

namespace Happening

/-- What has been announced, if anything. -/
def announced? : Happening → Option Announcement
  | .announce announcement => some announcement
  | .host _ _ => none

/-- What happens to a hub. -/
def perform (hub : Hub) : Happening → Hub
  | .announce announcement => ((Hub.emit announcement.event).perform hub).2
  | .host time saveFails =>
    { hub with tracer := { hub.tracer with hostTime := time, saveFails } }

end Happening

/-- What has happened, the latest first. -/
abbrev Chronicle := List Happening

namespace Chronicle

/-- Where a chronicle leads a hub that the tracer follows. Trace builders number their tracks as they
like. -/
def replay (numbering : Nat → Nat → Nat) (chronicle : Chronicle) : Hub :=
  chronicle.foldr (fun happening hub => happening.perform hub)
    { Hub.traced with tracer := { numbering } }

/-- All calls that have been made on trace builders, the latest first. -/
def log (numbering : Nat → Nat → Nat) (chronicle : Chronicle) : List Entry :=
  (chronicle.replay numbering).tracer.calls

/-- What has been announced, the latest first. -/
def announced (chronicle : Chronicle) : List Announcement :=
  chronicle.filterMap Happening.announced?

/-- A trace has been started and not been stopped since. -/
def isTracing (chronicle : Chronicle) : Bool :=
  started chronicle.announced
where
  started : List Announcement → Bool
    | [] => false
    | .start _ :: _ => true
    | .stop :: _ => false
    | _ :: earlier => started earlier

/-- Where the clock of a trace stands: at the cycles announced last, or at zero if a start has been
announced since. -/
def position (chronicle : Chronicle) : Nat :=
  cycles chronicle.announced
where
  cycles : List Announcement → Nat
    | [] => 0
    | .clock count :: _ => count
    | .start _ :: _ | .stop :: _ => 0
    | _ :: earlier => cycles earlier

/-- What was announced first. -/
def opening? (chronicle : Chronicle) : Option Announcement :=
  chronicle.announced.getLast?

end Chronicle

/-- A call without its time stamp. -/
def Call.timeless : Call → Call
  | .instant track name _ => .instant track name 0
  | .update track value _ => .update track value 0
  | call => call

/-- An entry without its time stamp. -/
def Entry.timeless (entry : Entry) : Entry :=
  { entry with call := entry.call.timeless }

-----------------------------------------------------------------------------------------
-- What an announcement means for the tracer
-----------------------------------------------------------------------------------------

namespace Tracer

/-- A note that an announcement makes: the sort and the name of its track, and the calls. -/
def note? : Announcement → Option (Lane × Text × (Nat → Int → List Call))
  | .instant thread name details =>
    some (.thread, if thread.isEmpty then (Track.cpu.name : Text) else thread, fun id time =>
      .instant id (.string (if name.isEmpty then ("event" : Text) else name)) time
        :: if details.isEmpty then [] else [.annotate (.object details)])
  | .counter name value _ =>
    some (.counter, if name.isEmpty then ("counter" : Text) else name,
      fun id time => [.update id (.number value) time])
  | .start _ | .stop | .clock _ => none

variable {tracer : Tracer}

theorem orElse_string (name : Text) (other : String)
    : follow.orElse (.string name) other
      = .string (if name.isEmpty then (other : Text) else name) := by
  rw [follow.orElse, Json.isOn]
  cases name.isEmpty <;> rfl

theorem follow_start (path : Text)
    : (follow (.start path)).perform tracer
      = (.ok (), (tracer.start (.string path.plainPath)).followCycles) := by
  have found : (Event.start path).payload.member "output_path" .null
      = .ok (.string path.plainPath) := by
    simp [Event.start, Json.member]
  rw [follow]
  simp only [Event.start] at found ⊢
  rw [found]
  refine (Attempt.perform_bind_of rfl).trans ?_
  rw [if_pos (by simp [Json.isOn, path.isEmpty_plainPath])]
  rfl

theorem follow_note {announcement : Announcement} {lane : Lane} {name : Text}
    {calls : Nat → Int → List Call} (noted : note? announcement = some (lane, name, calls))
    : follow announcement.event = note lane (.string name) calls := by
  cases announcement with
  | instant thread text details =>
      cases noted
      have payload : (if (Json.object details).isOn then Json.object details else .object [])
          = .object details := by cases details <;> rfl
      rw [Announcement.event, follow]
      simp only [Event.instant]
      rw [payload, orElse_string, orElse_string, Tracer.instant]
      cases details <;> rfl
  | counter text value thread =>
      cases noted
      have found : (Json.object [("value", .number value)]).member "value" .null
          = .ok (.number value) := by simp [Json.member]
      rw [Announcement.event, follow]
      simp only [Event.counter]
      rw [found]
      exact congrArg (Tracer.counter · (.number value)) (orElse_string text "counter")
  | start _ | stop | clock _ => cases noted

theorem follow_clock (cycles : Nat)
    : (follow (.clock (.int cycles))).perform tracer
      = (.ok (), { tracer with manual :=
          if tracer.manual.on then { tracer.manual with units := cycles } else tracer.manual }) := by
  have member : (Json.object [("cycles", .int cycles)]).member "cycles" (.int 0)
      = .ok (.int cycles) := by simp [Json.member]
  have found : (Json.object [("cycles", .int cycles)]).intMember "cycles" 0 = .ok cycles := by
    rw [Json.intMember, member]
    rfl
  rw [follow]
  simp only [Event.clock]
  rw [found]
  refine (Attempt.perform_bind_of rfl).trans ?_
  rw [setUnits, Attempt.perform_get_bind]
  by_cases on : tracer.manual.on
  · have bound : max 0 (cycles : Int) = cycles := Int.max_eq_right (Int.natCast_nonneg cycles)
    rw [if_pos on, if_pos on]
    exact congrArg (fun units =>
      (Except.ok (), { tracer with manual := { tracer.manual with units } })) bound
  · rw [if_neg on, if_neg on]
    rfl

-----------------------------------------------------------------------------------------
-- What does not depend on the clock and on earlier calls
-----------------------------------------------------------------------------------------

theorem exists_track (lane : Lane) (name : Json) (recording : Recording) (tracer : Tracer)
    : ∃ id known entries, ∀ manual calls,
        track lane name recording { tracer with manual, calls }
          = (id, known, { tracer with manual, calls := entries ++ calls }) := by
  cases known : numberOf? lane name recording.tracks with
  | some id =>
      refine ⟨id, recording, [], fun manual calls => ?_⟩
      rw [track, known]
      rfl
  | none =>
      let id := tracer.numbering recording.builder (recording.tracks.length + 1)
      refine ⟨id, { recording with tracks := recording.tracks ++ [(lane, name, id)] },
        [⟨recording.builder, lane.opening name id⟩], fun manual calls => ?_⟩
      rw [track, known]
      rfl

theorem exists_openAll (names : List (Lane × Text)) (recording : Recording) (tracer : Tracer)
    : ∃ known entries, ∀ manual calls,
        names.foldl (fun state name => (track name.1 (.string name.2) state.1 state.2).2)
            (recording, { tracer with manual, calls })
          = (known, { tracer with manual, calls := entries ++ calls }) := by
  induction names generalizing recording with
  | nil => exact ⟨recording, [], fun _ _ => rfl⟩
  | cons name rest hypothesis =>
      obtain ⟨id, known, opening, first⟩ := exists_track name.1 (.string name.2) recording tracer
      obtain ⟨last, openings, others⟩ := hypothesis known
      refine ⟨last, openings ++ opening, fun manual calls => ?_⟩
      rw [List.foldl_cons, first, others, List.append_assoc]

theorem exists_start (idle : tracer.recording = none) (path : Json)
    : ∃ known entries, ∀ manual calls,
        start path { tracer with manual, calls }
          = { tracer with
              recording := some known, manual := {}, builders := tracer.builders + 1,
              calls := entries ++ calls } := by
  obtain ⟨known, openings, opened⟩ := exists_openAll firstTracks
    { path, started := tracer.hostTime, builder := tracer.builders }
    { tracer with builders := tracer.builders + 1 }
  refine ⟨known, openings ++ [⟨tracer.builders, .builder "DMG Core"⟩], fun manual calls => ?_⟩
  have begins := opened {} (⟨tracer.builders, .builder "DMG Core"⟩ :: calls)
  have other : Tracer.recording { tracer with manual, calls } = none := idle
  rw [start_of_idle other begins, List.append_assoc]
  rfl

/-- What an announcement does to a tracer, whatever its clock and its earlier calls. The new calls
depend on the time alone, and only those of notes do. -/
structure Effect (announcement : Announcement) (tracer next : Tracer) (entries : Int → List Entry)
    : Prop where
  performed : ∀ manual calls, (tracer.enabled → manual.on)
    → (follow announcement.event).perform { tracer with manual, calls }
      = (.ok (), { next with
          manual := announcement.turns tracer.enabled manual,
          calls := entries (manual.units * manual.tick) ++ calls })
  enabled : next.enabled = announcement.leaves tracer.enabled
  timeless : ∀ one other, (entries one).map Entry.timeless = (entries other).map Entry.timeless
  timed : ∀ one other, entries one = entries other
    ↔ (announcement.isNote → tracer.enabled → one = other)

/-- A note says the same at any time, but for the time. -/
theorem exists_effect_note {announcement : Announcement} {lane : Lane} {name : Text}
    {calls : Nat → Int → List Call} (noted : note? announcement = some (lane, name, calls))
    (timeless : ∀ id one other,
      (calls id one).map Call.timeless = (calls id other).map Call.timeless)
    (timed : ∀ id one other, calls id one = calls id other → one = other)
    (tracer : Tracer)
    : ∃ next entries, Effect announcement tracer next entries := by
  have notes : announcement.isNote = true := by cases announcement <;> first | rfl | cases noted
  have stays : announcement.leaves tracer.enabled = tracer.enabled := by
    cases announcement <;> first | rfl | cases noted
  have turns : ∀ manual, announcement.turns tracer.enabled manual = manual := by
    intro manual
    cases announcement <;> first | rfl | cases noted
  cases running : tracer.recording with
  | none =>
      have off : tracer.enabled = false := enabled_of_idle running
      refine ⟨tracer, fun _ => [], fun manual earlier _ => ?_, stays.symm, fun _ _ => rfl,
        fun _ _ => ⟨fun _ _ on => ?_, fun _ => rfl⟩⟩
      · have other : Tracer.recording { tracer with manual, calls := earlier } = none := running
        rw [follow_note noted, perform_note_of_idle other, turns]
        rfl
      · rw [off] at on
        cases on
  | some recording =>
      have on : tracer.enabled = true := enabled_of_running running
      obtain ⟨id, known, opening, tracked⟩ := exists_track lane (.string name) recording tracer
      refine ⟨{ tracer with recording := some known },
        fun time => ((calls id time).map fun call => Entry.mk known.builder call).reverse ++ opening,
        fun manual earlier ticking => ?_, ?_, ?_, ?_⟩
      · have other : Tracer.recording { tracer with manual, calls := earlier } = some recording :=
          running
        have told : now { tracer with manual, calls := earlier } recording
            = .ok (manual.units * manual.tick) := if_pos (ticking on)
        rw [follow_note noted, perform_note other calls (tracked manual earlier), told, turns,
          List.append_assoc]
        rfl
      · rw [stays, on]
        rfl
      · intro one other
        have bare : ∀ time,
            ((calls id time).map fun call => Entry.mk known.builder call).map Entry.timeless
              = ((calls id time).map Call.timeless).map (Entry.mk known.builder) := by
          intro time
          rw [List.map_map, List.map_map]
          rfl
        rw [List.map_append, List.map_reverse, bare, timeless id one other, ← bare,
          ← List.map_reverse, ← List.map_append]
      · intro one other
        have inj : Function.Injective (Entry.mk known.builder) := fun _ _ same => by cases same; rfl
        rw [List.append_cancel_right_eq, List.reverse_inj, List.map_inj_right inj]
        exact ⟨fun same _ _ => timed id one other same, fun same => same notes on ▸ rfl⟩

/-- What is no note does not ask for the time. -/
theorem Effect.of_quiet {announcement : Announcement} {next : Tracer} {entries : List Entry}
    (quiet : announcement.isNote = false)
    (performed : ∀ manual calls, (follow announcement.event).perform { tracer with manual, calls }
      = (.ok (), { next with
          manual := announcement.turns tracer.enabled manual, calls := entries ++ calls }))
    (enabled : next.enabled = announcement.leaves tracer.enabled)
    : Effect announcement tracer next fun _ => entries where
  performed manual calls _ := performed manual calls
  enabled := enabled
  timeless _ _ := rfl
  timed one other := by simp [quiet]

theorem exists_effect (announcement : Announcement) (tracer : Tracer)
    : ∃ next entries, Effect announcement tracer next entries := by
  cases announcement with
  | start path =>
      cases running : tracer.recording with
      | some recording =>
          have on : tracer.enabled = true := enabled_of_running running
          refine ⟨tracer, fun _ => [], .of_quiet rfl (fun manual calls => ?_) on⟩
          have other : Tracer.recording { tracer with manual, calls } = some recording := running
          rw [Announcement.event, follow_start, start_of_running other]
          rfl
      | none =>
          obtain ⟨known, openings, started⟩ := exists_start running (.string path.plainPath)
          refine ⟨{ tracer with recording := some known, builders := tracer.builders + 1 },
            fun _ => openings, .of_quiet rfl (fun manual calls => ?_) rfl⟩
          rw [Announcement.event, follow_start, started]
          rfl
  | stop =>
      have follows : ∀ other : Tracer, (follow Announcement.stop.event).perform other
          = (.ok (), (stop.perform other).2) := fun _ => rfl
      cases running : tracer.recording with
      | some recording =>
          have on : tracer.enabled = true := enabled_of_running running
          let target := if recording.path.isOn then recording.path else .string usualPath
          refine ⟨{ tracer with recording := none },
            fun _ => [⟨recording.builder, .save target !tracer.saveFails⟩],
            .of_quiet rfl (fun manual calls => ?_) rfl⟩
          have other : Tracer.recording { tracer with manual, calls } = some recording := running
          rw [follows, perform_stop other, on]
          rfl
      | none =>
          have off : tracer.enabled = false := enabled_of_idle running
          refine ⟨tracer, fun _ => [], .of_quiet rfl (fun manual calls => ?_) off⟩
          have other : Tracer.recording { tracer with manual, calls } = none := running
          rw [follows, perform_stop_of_idle other, off]
          rfl
  | instant thread name details =>
      exact exists_effect_note rfl (fun _ _ _ => rfl) (fun _ _ _ same => by cases same; rfl) tracer
  | counter name value thread =>
      exact exists_effect_note rfl (fun _ _ _ => rfl) (fun _ _ _ same => by cases same; rfl) tracer
  | clock cycles => exact ⟨tracer, fun _ => [], .of_quiet rfl (fun _ _ => follow_clock cycles) rfl⟩

-----------------------------------------------------------------------------------------
-- Two tracers whose clocks differ
-----------------------------------------------------------------------------------------

/-- Two tracers differ in their clocks and in the time stamps of calls. The calls are the same just
under a given condition. -/
structure Alike (same : Prop) (one other : Tracer) : Prop where
  state : other = { one with manual := other.manual, calls := other.calls }
  timeless : other.calls.map Entry.timeless = one.calls.map Entry.timeless
  calls : other.calls = one.calls ↔ same

variable {same : Prop} {one other : Tracer}

/-- An announcement finds out about a difference if it is noted. -/
theorem Alike.announce (alike : Alike same one other) (announcement : Announcement)
    (ticking : one.enabled → one.manual.on ∧ other.manual.on)
    : Alike (same ∧ (announcement.isNote → one.enabled →
          other.manual.units * other.manual.tick = one.manual.units * one.manual.tick))
        ((follow announcement.event).perform one).2
        ((follow announcement.event).perform other).2 := by
  obtain ⟨next, entries, effect⟩ := exists_effect announcement one
  have first := effect.performed one.manual one.calls fun on => (ticking on).1
  have second := effect.performed other.manual other.calls fun on => (ticking on).2
  rw [← alike.state] at second
  have eta : { one with manual := one.manual, calls := one.calls } = one := rfl
  rw [eta] at first
  rw [first, second]
  refine ⟨rfl, ?_, ?_⟩
  · rw [List.map_append, List.map_append, alike.timeless, effect.timeless]
  · rw [← effect.timed, ← alike.calls]
    constructor
    · intro calls
      have long := congrArg List.length (effect.timeless (other.manual.units * other.manual.tick)
        (one.manual.units * one.manual.tick))
      rw [List.length_map, List.length_map] at long
      obtain ⟨new, old⟩ := List.append_inj calls long
      exact ⟨old, new⟩
    · rintro ⟨old, new⟩
      rw [old, new]

theorem Alike.congr {other_same : Prop} (alike : Alike same one other) (iff : same ↔ other_same)
    : Alike other_same one other :=
  ⟨alike.state, alike.timeless, alike.calls.trans iff⟩

theorem Alike.host (alike : Alike same one other) (time : Float) (saveFails : Bool)
    : Alike same { one with hostTime := time, saveFails }
        { other with hostTime := time, saveFails } := by
  refine ⟨?_, alike.timeless, alike.calls⟩
  rw [alike.state]

end Tracer

/-- An event reaches the tracer if no one else follows the hub. -/
theorem Hub.perform_emit_tracer {hub : Hub} (alone : hub.observers = [.tracer]) (event : Event)
    : (emit event).perform hub
      = (((Tracer.follow event).perform hub.tracer).1,
        { hub with tracer := ((Tracer.follow event).perform hub.tracer).2 }) := by
  have split : (emit event).perform hub
      = (hub.observers.forM (deliver event)).perform hub := rfl
  have single : hub.observers.forM (deliver event)
      = deliver event .tracer >>= fun _ => pure () := by
    rw [alone]
    rfl
  rw [split, single]
  cases followed : (Tracer.follow event).perform hub.tracer with
  | mk answer tracer =>
      have delivered : (deliver event .tracer).perform hub = (answer, { hub with tracer }) :=
        congrArg (fun outcome => (outcome.1, { hub with tracer := outcome.2 })) followed
      cases answer with
      | ok _ => exact Attempt.perform_bind_of delivered
      | error error => exact Attempt.perform_bind_of_error delivered

-----------------------------------------------------------------------------------------
-- What a chronicle comes to
-----------------------------------------------------------------------------------------

namespace Happening

/-- What happens to a tracer. -/
def affect (tracer : Tracer) : Happening → Tracer
  | .announce announcement => ((Tracer.follow announcement.event).perform tracer).2
  | .host time saveFails => { tracer with hostTime := time, saveFails }

end Happening

namespace Chronicle

variable {numbering : Nat → Nat → Nat} {chronicle before : Chronicle}

theorem replay_attended (numbering : Nat → Nat → Nat) (chronicle : Chronicle)
    : (chronicle.replay numbering).observers = [.tracer] := by
  induction chronicle with
  | nil => rfl
  | cons happening earlier hypothesis =>
      cases happening with
      | announce announcement =>
          have told := Hub.perform_emit_tracer hypothesis announcement.event
          exact (congrArg (·.2.observers) told).trans hypothesis
      | host time saveFails => exact hypothesis

/-- Whatever happens reaches the tracer. -/
theorem replay_tracer (numbering : Nat → Nat → Nat) (happening : Happening) (earlier : Chronicle)
    : (replay numbering (happening :: earlier)).tracer
      = happening.affect (earlier.replay numbering).tracer := by
  cases happening with
  | announce announcement =>
      have told := Hub.perform_emit_tracer (replay_attended numbering earlier) announcement.event
      exact congrArg (·.2.tracer) told
  | host time saveFails => rfl

/-- What the manual clock of a tracer should be. -/
def clock (chronicle : Chronicle) : ManualClock :=
  if chronicle.isTracing then
    { on := true, units := chronicle.position, tick := Tracer.cycleTime }
  else {}

theorem isTracing_announce (announcement : Announcement) (earlier : Chronicle)
    : isTracing (.announce announcement :: earlier) = announcement.leaves earlier.isTracing := by
  cases announcement <;> rfl

theorem clock_announce (announcement : Announcement) (earlier : Chronicle)
    : clock (.announce announcement :: earlier)
      = announcement.turns earlier.isTracing earlier.clock := by
  rw [clock, isTracing_announce, clock]
  cases announcement <;> cases earlier.isTracing <;> rfl

/-- A tracer is where a chronicle has led it. -/
structure Leads (chronicle : Chronicle) (tracer : Tracer) : Prop where
  enabled : tracer.enabled = chronicle.isTracing
  manual : tracer.manual = chronicle.clock

theorem Leads.ticking {tracer : Tracer} (leads : chronicle.Leads tracer) (on : tracer.enabled)
    : tracer.manual.on := by
  rw [leads.manual, clock, ← leads.enabled, if_pos on]

theorem leads_replay (numbering : Nat → Nat → Nat) (chronicle : Chronicle)
    : chronicle.Leads (chronicle.replay numbering).tracer := by
  induction chronicle with
  | nil => exact ⟨rfl, rfl⟩
  | cons happening earlier hypothesis =>
      rw [replay_tracer]
      cases happening with
      | announce announcement =>
          obtain ⟨next, entries, effect⟩ :=
            Tracer.exists_effect announcement (replay numbering earlier).tracer
          have performed := effect.performed _ (replay numbering earlier).tracer.calls
            hypothesis.ticking
          have left : (Happening.announce announcement).affect (replay numbering earlier).tracer
              = _ := congrArg Prod.snd performed
          rw [left]
          refine ⟨?_, ?_⟩
          · rw [isTracing_announce, ← hypothesis.enabled]
            exact effect.enabled
          · rw [clock_announce, ← hypothesis.enabled, ← hypothesis.manual]
      | host time saveFails => exact ⟨hypothesis.enabled, hypothesis.manual⟩

-----------------------------------------------------------------------------------------
-- One more start
-----------------------------------------------------------------------------------------

theorem started_append {later earlier other : List Announcement}
    (same : isTracing.started earlier = isTracing.started other)
    : isTracing.started (later ++ earlier) = isTracing.started (later ++ other) := by
  induction later with
  | nil => exact same
  | cons announcement rest hypothesis => cases announcement <;> first | rfl | exact hypothesis

theorem cycles_append (later earlier : List Announcement)
    : position.cycles (later ++ earlier)
      = if later.all (·.isNote) then position.cycles earlier else position.cycles later := by
  induction later with
  | nil => rfl
  | cons announcement rest hypothesis => cases announcement <;> first | rfl | exact hypothesis

theorem announced_append (later earlier : Chronicle)
    : announced (later ++ earlier) = announced later ++ announced earlier :=
  List.filterMap_append

/-- One more start during a trace makes no difference to whether there is a trace afterwards. -/
theorem isTracing_restarted (tracing : before.isTracing) (path : Text) (after : Chronicle)
    : isTracing (after ++ .announce (.start path) :: before) = isTracing (after ++ before) := by
  rw [isTracing, isTracing, announced_append, announced_append]
  exact started_append tracing.symm

/-- One more start sets the clock back until something is announced that sets it again. -/
theorem position_restarted (path : Text) (after : Chronicle)
    : position (after ++ .announce (.start path) :: before) = position (after ++ before)
      ↔ (after.announced.all (·.isNote) → before.position = 0) := by
  rw [position, position, announced_append, announced_append, cycles_append, cycles_append]
  cases after.announced.all (·.isNote) with
  | false => simp
  | true =>
      have back : position.cycles (announced (.announce (.start path) :: before)) = 0 := rfl
      rw [if_pos rfl, if_pos rfl, back, eq_comm]
      exact ⟨fun same _ => same, fun same => same rfl⟩

/-- The time stamps that two tracers would give now are the same if their clocks are. -/
theorem Leads.time_eq_iff {chronicle other : Chronicle} {one two : Tracer}
    (first : chronicle.Leads one) (second : other.Leads two) (tracing : chronicle.isTracing)
    (also : other.isTracing)
    : two.manual.units * two.manual.tick = one.manual.units * one.manual.tick
      ↔ other.position = chronicle.position := by
  rw [first.manual, second.manual, clock, clock, if_pos tracing, if_pos also]
  simp only [Tracer.cycleTime]
  omega

/-- Nothing but the announcement that comes first can tell that the clock was set back. -/
theorem unsettled_announce {earlier : Chronicle} {enabled same_time : Prop}
    (announcement : Announcement)
    (silent : earlier.announced = [] → enabled)
    (time_iff : enabled → (same_time ↔ (earlier.announced.all (·.isNote) → before.position = 0)))
    : ((before.position = 0 ∨ ∀ first ∈ earlier.opening?, first.isNote = false)
        ∧ (announcement.isNote → enabled → same_time))
      ↔ before.position = 0
        ∨ ∀ first ∈ opening? (.announce announcement :: earlier), first.isNote = false := by
  have announced_cons : announced (.announce announcement :: earlier)
      = announcement :: earlier.announced := rfl
  rcases List.eq_nil_or_concat' earlier.announced with none | ⟨rest, last, spoken⟩
  -- This announcement is the first one, and the clocks still differ unless both stand at zero.
  · have opened : opening? (.announce announcement :: earlier) = some announcement := by
      rw [opening?, announced_cons, none]
      rfl
    have unopened : opening? earlier = Option.none := by rw [opening?, none]; rfl
    have time := time_iff (silent none)
    rw [none] at time
    rw [opened, unopened]
    cases noted : announcement.isNote <;> simp [noted, time, silent none]
  -- If the first announcement set the clock, the clocks agree; if it was a note, it has told already.
  · have opened : opening? (.announce announcement :: earlier) = some last := by
      rw [opening?, announced_cons, spoken, ← List.cons_append]
      exact List.getLast?_concat
    have already : opening? earlier = some last := by
      rw [opening?, spoken]
      exact List.getLast?_concat
    rw [opened, already]
    refine and_iff_left_of_imp fun settled _ on => (time_iff on).mpr fun all => ?_
    refine settled.resolve_right fun quiet => ?_
    rw [spoken, List.all_append, Bool.and_eq_true] at all
    have noted := quiet last rfl
    simp [noted] at all

/-- A start during a trace sets its clock back and does nothing else, so that from then on the calls
differ in their time stamps, if at all. -/
theorem alike_replay (numbering : Nat → Nat → Nat) (tracing : before.isTracing) (path : Text)
    (after : Chronicle)
    : Tracer.Alike
        (before.position = 0 ∨ ∀ announcement ∈ after.opening?, announcement.isNote = false)
        (replay numbering (after ++ before)).tracer
        (replay numbering (after ++ .announce (.start path) :: before)).tracer := by
  induction after with
  | nil =>
      rw [List.nil_append, List.nil_append, replay_tracer]
      have leads := leads_replay numbering before
      obtain ⟨recording, running⟩ := Option.isSome_iff_exists.mp (leads.enabled.trans tracing)
      have left : (Happening.announce (.start path)).affect (replay numbering before).tracer
          = (replay numbering before).tracer.followCycles := by
        rw [Happening.affect, Announcement.event, Tracer.follow_start,
          Tracer.start_of_running running]
      rw [left]
      exact ⟨rfl, rfl, iff_of_true rfl (.inr nofun)⟩
  | cons happening earlier hypothesis =>
      rw [List.cons_append, List.cons_append, replay_tracer, replay_tracer]
      cases happening with
      | host time saveFails => exact hypothesis.host time saveFails
      | announce announcement =>
          -- The clocks of both tracers are known from their chronicles, so the times compare.
          have first := leads_replay numbering (earlier ++ before)
          have second := leads_replay numbering (earlier ++ .announce (.start path) :: before)
          have also := isTracing_restarted tracing path earlier
          have both : (replay numbering (earlier ++ before)).tracer.enabled
              → (replay numbering (earlier ++ before)).tracer.manual.on
                ∧ (replay numbering
                    (earlier ++ .announce (.start path) :: before)).tracer.manual.on := by
            intro on
            refine ⟨first.ticking on, second.ticking ?_⟩
            rw [second.enabled, also, ← first.enabled, on]
          refine (hypothesis.announce announcement both).congr ?_
          have time_iff (on : (replay numbering (earlier ++ before)).tracer.enabled) :=
            (first.time_eq_iff second (first.enabled ▸ on) (also ▸ first.enabled ▸ on)).trans
              (position_restarted path earlier)
          exact unsettled_announce announcement
            (fun spoken => first.enabled.trans (by
              rw [isTracing, announced_append, spoken]
              exact tracing))
            time_iff

/-- The calls agree unless a note comes before the clock is set again. -/
theorem log_eq_iff (numbering : Nat → Nat → Nat) (tracing : before.isTracing) (path : Text)
    (after : Chronicle)
    : log numbering (after ++ .announce (.start path) :: before) = log numbering (after ++ before)
      ↔ before.position = 0
        ∨ ∀ announcement ∈ after.opening?, announcement.isNote = false :=
  (alike_replay numbering tracing path after).calls

/-- During a trace one more start changes no call on any trace builder but for its time stamp. The
time stamps stay the same just if the clock stood at zero or the next announcement, if any, is no
note. Witness: two tracers that differ in their clocks only, of which notes alone make use. -/
theorem log_restarted_iff (numbering : Nat → Nat → Nat) (before after : Chronicle) (path : Text)
    (tracing : before.isTracing)
    : (log numbering (after ++ .announce (.start path) :: before)).map Entry.timeless
        = (log numbering (after ++ before)).map Entry.timeless
      ∧ (log numbering (after ++ .announce (.start path) :: before)
          = log numbering (after ++ before)
        ↔ before.position = 0
          ∨ ∀ announcement ∈ after.opening?, announcement.isNote = false) :=
  ⟨(alike_replay numbering tracing path after).timeless, log_eq_iff numbering tracing path after⟩

/-- A trace whose clock has been set. -/
def underway : Chronicle := [.announce (.clock 100), .announce (.start "a")]

/-- Once the clock has been set again, everything is as without the start. -/
theorem log_restarted_iff_underway
    : underway.isTracing
      ∧ log (fun _ place => place)
          ([.announce (.instant "CPU" "x" []), .announce (.clock 200)]
            ++ .announce (.start "b") :: underway)
        = log (fun _ place => place)
          ([.announce (.instant "CPU" "x" []), .announce (.clock 200)] ++ underway) := by
  have tracing : underway.isTracing := rfl
  have settled := (log_restarted_iff (fun _ place => place) underway
    [.announce (.instant "CPU" "x" []), .announce (.clock 200)] "b" tracing).2
  refine ⟨tracing, settled.mpr (.inr ?_)⟩
  rintro first ⟨⟩
  rfl

/-- What is noted next after a start during a trace bears another time stamp. -/
theorem log_restarted_differs
    : underway.isTracing
      ∧ log (fun _ place => place)
          ([.announce (.instant "CPU" "x" [])] ++ .announce (.start "b") :: underway)
        ≠ log (fun _ place => place) ([.announce (.instant "CPU" "x" [])] ++ underway) := by
  have tracing : underway.isTracing := rfl
  refine ⟨tracing, fun same => ?_⟩
  rcases (log_eq_iff _ tracing "b" _).mp same with zero | settled
  · exact absurd zero (by decide)
  · cases settled _ rfl

end Chronicle

end Trace

end Handheld
