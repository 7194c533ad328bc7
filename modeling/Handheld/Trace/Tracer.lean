import Handheld.Attempt
import Handheld.Trace.Event

/-!
The tracer turns events into calls on a trace builder, and the calls are kept. Time stamps come
from the host's clock until a manual clock is chosen.
-/

namespace Handheld.Trace

/-- A call on a trace builder. Numbers of tracks are those that the builder gave out. Names and the
path are passed on as the host gave them. -/
inductive Call
  | builder (title : String)
  | thread (name : Json) (id : Nat)
  | counterTrack (name : Json) (unit : String) (id : Nat)
  | instant (track : Nat) (name : Json) (time : Int)
  | annotate (details : Json)
  | update (track : Nat) (value : Json) (time : Int)
  /-- The trace is to be stored, which the host may refuse. -/
  | save (path : Json) (stored : Bool)

/-- A call and the builder that it was made on. Builders are numbered as they come about. -/
structure Entry where
  builder : Nat
  call : Call

/-- The sorts of tracks. -/
inductive Lane
  | thread
  | counter
  deriving DecidableEq, Repr

/-- The call that opens a track, with the number that the builder gave out for it. -/
def Lane.opening (name : Json) (id : Nat) : Lane → Call
  | .thread => .thread name id
  | .counter => .counterTrack name "count" id

/-- A trace in the making. -/
structure Recording where
  path : Json
  /-- The host's time at the start, in seconds. -/
  started : Float
  /-- The builder of the trace. -/
  builder : Nat
  /-- The tracks that have been opened: their sorts, names and numbers. -/
  tracks : List (Lane × Json × Nat) := []

/-- A clock that is set by hand: a position in units and the nanoseconds of one unit. -/
structure ManualClock where
  on : Bool := false
  units : Int := 0
  tick : Int := 1
  deriving DecidableEq, Repr

/-- The state of a tracer. -/
structure Tracer where
  recording : Option Recording := none
  manual : ManualClock := {}
  /-- The host's time in seconds. -/
  hostTime : Float := 0
  /-- Whether the host refuses to store traces. -/
  saveFails : Bool := false
  /-- The number that a builder gives out for its first track, its second one, and so on. -/
  numbering : Nat → Nat → Nat := fun _ place => place
  /-- How many builders there have been. -/
  builders : Nat := 0
  /-- The calls made, the latest first. -/
  calls : List Entry := []

namespace Tracer

/-- The nanoseconds of one clock cycle, rounded down. -/
abbrev cycleTime : Int := 238

/-- The counters that every trace begins with. -/
def firstCounters : List Text := ["instructions", "cycles"]

/-- The tracks that every trace begins with. -/
def firstTracks : List (Lane × Text) :=
  Track.all.map (fun track => (Lane.thread, (track.name : Text)))
    ++ firstCounters.map fun name => (Lane.counter, name)

/-- Whether a trace is in the making. -/
def enabled (tracer : Tracer) : Bool :=
  tracer.recording.isSome

/-- The path of the trace in the making, and nothing without one. -/
def path (tracer : Tracer) : Json :=
  (tracer.recording.map (·.path)).getD .null

/-- Makes calls on a builder, one after the other. -/
def record (builder : Nat) (calls : List Call) (tracer : Tracer) : Tracer :=
  { tracer with calls := (calls.map fun call => ⟨builder, call⟩).reverse ++ tracer.calls }

/-- The time stamp for a call made now, in nanoseconds. -/
def now (tracer : Tracer) (recording : Recording) : Except Misfit Int :=
  if tracer.manual.on then .ok (tracer.manual.units * tracer.manual.tick)
  else (Number.float ((tracer.hostTime - recording.started) * 1000000000)).toInt

/-- The number that has been given out for a track. -/
def numberOf? (lane : Lane) (name : Json) (tracks : List (Lane × Json × Nat)) : Option Nat :=
  tracks.findSome? fun (other, known, id) =>
    if other = lane ∧ known.same name then some id else none

/-- The number of a track, which is opened if it is new. -/
def track (lane : Lane) (name : Json) (recording : Recording) (tracer : Tracer)
    : Nat × Recording × Tracer :=
  match numberOf? lane name recording.tracks with
  | some id => (id, recording, tracer)
  | none =>
    let id := tracer.numbering recording.builder (recording.tracks.length + 1)
    (id, { recording with tracks := recording.tracks ++ [(lane, name, id)] },
      tracer.record recording.builder [lane.opening name id])

/-- Begins a trace, unless one is in the making. The manual clock is put away. -/
def start (path : Json) (tracer : Tracer) : Tracer :=
  if tracer.enabled then tracer
  else
    let builder := tracer.builders
    let fresh : Recording := { path, started := tracer.hostTime, builder }
    let begun := { tracer with manual := {}, builders := builder + 1 }
    let (recording, tracer) := firstTracks.foldl
      (fun (recording, tracer) (lane, name) => (track lane (.string name) recording tracer).2)
      (fresh, begun.record builder [.builder "DMG Core"])
    { tracer with recording := some recording }

/-- Ends the trace in the making and stores it. Even if it cannot be stored it has ended. -/
def stop : Attempt Tracer Unit := do
  let tracer ← get
  match tracer.recording with
  | none => return
  | some recording =>
    let path := if recording.path.isOn then recording.path else .string usualPath
    let idle := { tracer with recording := none, manual := {} }
    set (idle.record recording.builder [.save path !tracer.saveFails])
    if tracer.saveFails then
      throw .traceNotSaved

/-- Ends the trace in the making, whether or not it can be stored. -/
def stopSafely (tracer : Tracer) : Tracer :=
  (stop.perform tracer).2

/-- Makes calls about a track of the trace in the making. The track is opened first if it is new, and
then the clock is read. -/
def note (lane : Lane) (name : Json) (calls : Nat → Int → List Call) : Attempt Tracer Unit := do
  let tracer ← get
  match tracer.recording with
  | none => return
  | some recording =>
    let name ← Attempt.expect name.toKey
    let (id, recording, tracer) := track lane name recording tracer
    set { tracer with recording := some recording }
    let time ← Attempt.expect (tracer.now recording)
    modify (record recording.builder (calls id time))

/-- Adds something that happened to the trace in the making. -/
def instant (thread name details : Json) : Attempt Tracer Unit :=
  note .thread thread fun id time =>
    .instant id name time :: if details.isOn then [.annotate details] else []

/-- Adds a new value of a quantity to the trace in the making. -/
def counter (name value : Json) : Attempt Tracer Unit :=
  note .counter name fun id time => [.update id value time]

/-- Chooses the manual clock or the host's. The position starts again at zero even if the length
of a unit cannot be read. -/
def setManual (on : Bool) (tick : Json) : Attempt Tracer Unit := do
  modify fun tracer => { tracer with manual := { tracer.manual with on, units := 0 } }
  let tick ← Attempt.expect tick.toInt
  modify fun tracer => { tracer with manual := { tracer.manual with tick := max 1 tick } }

/-- Moves the manual clock, if it is in use, to a position that is not below zero. -/
def setUnits (units : Json) : Attempt Tracer Unit := do
  if (← get).manual.on then
    let units ← Attempt.expect units.toInt
    modify fun tracer => { tracer with manual := { tracer.manual with units := max 0 units } }

/-- Chooses the manual clock that follows the machine's cycles. -/
def followCycles (tracer : Tracer) : Tracer :=
  { tracer with manual := { on := true, units := 0, tick := cycleTime } }

/-- Begins a trace that follows the machine's cycles, unless one is in the making. -/
def ensure (path : Json) (tracer : Tracer) : Tracer :=
  if tracer.enabled then tracer else (tracer.start path).followCycles

/-- What an event means for the trace. A start without a path is passed over; a start during a
trace does not begin another one but sets the clock back. -/
def follow (event : Event) : Attempt Tracer Unit := do
  match event.kind with
  | .start =>
    let path ← Attempt.expect (event.payload.member "output_path" .null)
    if path.isOn then
      modify fun tracer => (tracer.start (.string path.plainText)).followCycles
  | .stop => modify stopSafely
  | .instant => instant (orElse event.thread Track.cpu.name) (orElse event.name "event") event.payload
  | .counter =>
    let value ← Attempt.expect (event.payload.member "value" .null)
    match value with
    | .null => return
    | value => counter (orElse event.name "counter") value
  | .clock =>
    let cycles ← Attempt.expect (event.payload.intMember "cycles" 0)
    setUnits (.int cycles)
where
  /-- A name, or another one for a name that is empty or switched off. -/
  orElse (name : Json) (other : String) : Json :=
    if name.isOn then name else .string other

end Tracer

end Handheld.Trace
