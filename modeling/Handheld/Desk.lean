import Handheld.Console.Tampered
import Handheld.Scenario

/-!
The desk of a host: the scenario in hand, and what has been put aside under names, which are
bundles and captured states. Another console can take the place of the one in hand at any time.
-/

namespace Handheld

/-- What a host works with. -/
structure Desk where
  scenario : Scenario
  /-- What the host has left in the registers of the console in hand. -/
  strays : Cpu.Strays := []
  /-- Bundles under their names. -/
  bundles : List (Json × Bundle) := []
  /-- Captured states under their names. -/
  captures : List (Json × Capture) := []
  /-- What consoles have shown of their serial output, as far as it has been collected. -/
  echo : String := ""

namespace Desk

/-- The console in hand. -/
def console (desk : Desk) : Console :=
  desk.scenario.session.console

/-- The console in hand with what the host has left in it. -/
def tampered (desk : Desk) : Tampered :=
  { console := desk.console, strays := desk.strays }

/-- The hub of the session in hand. -/
def hub (desk : Desk) : Trace.Hub :=
  desk.scenario.session.hub

/-- Changes the session in hand. -/
def onSession (change : Session → Session) (desk : Desk) : Desk :=
  { desk with scenario := { desk.scenario with session := change desk.scenario.session } }

/-- Changes the hub. -/
def onHub (change : Trace.Hub → Trace.Hub) : Desk → Desk :=
  onSession fun session => { session with hub := change session.hub }

/-- Carries out an action on the scenario. -/
def inScenario {α : Type} (action : Attempt Scenario α) : Attempt Desk α :=
  Attempt.on scenario (fun scenario desk => { desk with scenario }) action

/-- Carries out an action on the console. -/
def act {α : Type} (action : Attempt Console α) : Attempt Desk α :=
  inScenario (Scenario.act action)

/-- Carries out an action on the console and on what the host has left in it, and delivers what the
console announces. -/
def tamper {α : Type} (action : Attempt Tampered α) : Attempt Desk α := do
  let (outcome, { console, strays }) := action.perform (← get).tampered
  modify fun desk =>
    { desk.onSession fun session => { session with console } with strays }
  inScenario (Scenario.inSession Session.deliver)
  match outcome with
  | .ok answer => return answer
  | .error error => throw error

/-- Collects what the console has shown of its serial output. -/
def collect (desk : Desk) : Desk :=
  let shown := desk.console.memory.peripherals.serial.heardText
  let quiet := desk.onSession fun session =>
    { session with
      console := session.console.onMemory fun memory =>
        memory.onPeripherals fun p => { p with serial := { p.serial with heard := [] } } }
  { quiet with echo := desk.echo ++ shown }

/-- Takes another session in hand and lets its console run. If that fails the old console comes
back, while everything that the new one has announced and shown stays. -/
def exchange (session : Session) (steps : Json) : Attempt Desk Unit := do
  modify collect
  let desk ← get
  let (outcome, session) := (Session.boot steps).perform session
  let taken := { desk with scenario := { session }, strays := [] }.collect
  match outcome with
  | .ok _ => set taken
  | .error error =>
    set ({ desk with echo := taken.echo }.onHub fun _ => session.hub)
    throw error

/-- The bundle of a given name, if one has been put aside. -/
def bundle? (name : Json) : Attempt Desk (Option Bundle) := do
  let name ← Attempt.expect name.toKey
  return Json.findPair? name (← get).bundles

/-- The bundle of a given name. -/
def bundle (name : Json) : Attempt Desk Bundle := do
  match ← bundle? name with
  | some bundle => return bundle
  | none => throw (.bundle .absent)

/-- Puts a bundle aside. -/
def keepBundle (name : Json) (bundle : Bundle) : Attempt Desk Unit := do
  let name ← Attempt.expect name.toKey
  modify fun desk => { desk with bundles := Json.insertPair desk.bundles (name, bundle) }

/-- Saves the console under a name, at a time that the host gives. -/
def save (created : String) (name : Json) : Attempt Desk Unit := do
  match (← get).tampered.save created with
  | .ok bundle => keepBundle name bundle
  | .error error => throw error

/-- Loads the bundle of a given name into the console. -/
def load (name : Json) : Attempt Desk Unit := do
  tamper (Tampered.load (← bundle? name))

/-- The captured state of a given name. -/
def captured (name : Json) : Attempt Desk Capture := do
  let name ← Attempt.expect name.toKey
  match Json.findPair? name (← get).captures with
  | some capture => return capture
  | none => throw (.misfit .unknownName)

/-- Captures the state of the console under a name. -/
def capture (name : Json) : Attempt Desk Unit := do
  let name ← Attempt.expect name.toKey
  modify fun desk =>
    { desk with captures := Json.insertPair desk.captures (name, desk.tampered.capture) }

/-- Hands over the events that keepers have kept. -/
def takeEvents : Attempt Desk (List (Label × Trace.Event)) := do
  let kept := (← get).hub.kept
  modify (onHub fun hub => { hub with kept := [] })
  return kept.reverse

/-- Hands over the calls that the tracer has made. -/
def takeCalls : Attempt Desk (List Trace.Entry) := do
  let calls := (← get).hub.tracer.calls
  modify (onHub fun hub => { hub with tracer := { hub.tracer with calls := [] } })
  return calls.reverse

end Desk

end Handheld
