import Handheld.Json.Label
import Handheld.Trace.Tracer

/-!
Observers and the delivery of events to them. An observer may drop observers, itself included,
while an event is being delivered; that event still reaches everyone it was meant for.
-/

namespace Handheld.Trace

/-- Someone who follows the events of a machine. -/
inductive Observer
  /-- The tracer. -/
  | tracer
  /-- Someone who keeps the events, and may drop keepers after each. Whom he drops can depend on all
  that he has kept by then, the latest first. -/
  | attendant (name : Label) (drops : List Event → List Label)

namespace Observer

/-- A keeper who may drop another one, always the same. -/
def keeper (name : Label) (drops : Option Label) : Observer :=
  .attendant name fun _ => drops.toList

/-- The name of a keeper. -/
def keeper? : Observer → Option Label
  | .tracer => none
  | .attendant name _ => some name

/-- Whether this is the keeper of a given name. -/
def isKeeper (name : Label) (observer : Observer) : Bool :=
  observer.keeper? = some name

end Observer

/-- The observers in the order of their registration, and what they hold. -/
structure Hub where
  observers : List Observer := []
  tracer : Tracer := {}
  /-- The events that keepers have kept, the latest first. -/
  kept : List (Label × Event) := []

namespace Hub

/-- A hub whose events the tracer follows. -/
def traced : Hub := { observers := [.tracer] }

/-- Adds an observer at the end, unless it is there. Keepers are told apart by their names. -/
def register (observer : Observer) (hub : Hub) : Hub :=
  if hub.observers.any (·.keeper? = observer.keeper?) then hub
  else { hub with observers := hub.observers ++ [observer] }

/-- Drops the keeper of a given name, if it is there. -/
def unregister (name : Label) (hub : Hub) : Hub :=
  { hub with observers := hub.observers.eraseP (·.isKeeper name) }

/-- The names of the keepers in the order of their registration. -/
def keepers (hub : Hub) : List Label :=
  hub.observers.filterMap Observer.keeper?

/-- The events that a keeper has kept, the latest first. -/
def keptBy (name : Label) (hub : Hub) : List Event :=
  (hub.kept.filter (·.1 = name)).map (·.2)

/-- Hands an event to one observer. -/
def deliver (event : Event) : Observer → Attempt Hub Unit
  | .tracer => Attempt.on Hub.tracer (fun tracer hub => { hub with tracer }) (Tracer.follow event)
  | .attendant name drops =>
    modify fun hub =>
      let noted := { hub with kept := (name, event) :: hub.kept }
      (drops (noted.keptBy name)).foldl (fun hub other => hub.unregister other) noted

/-- Delivers an event to everyone who is registered now, in order. -/
def emit (event : Event) : Attempt Hub Unit := do
  (← get).observers.forM (deliver event)

/-- Delivers events one after the other. -/
def emitAll (events : List Event) : Attempt Hub Unit :=
  events.forM emit

/-- Announces a trace. Only text can be a path. -/
def start (path : Json) : Attempt Hub Unit :=
  match path with
  | .string path => emit (.start path)
  | _ => throw (.misfit .wrongSort)

end Hub

end Handheld.Trace
