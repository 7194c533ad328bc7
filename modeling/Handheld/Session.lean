import Handheld.Console.Load
import Handheld.Console.State
import Handheld.Console.Step
import Handheld.Trace.Hub

/-!
A session: a console together with the hub that delivers what it announces. Events are delivered
after every action, also after one that failed.
-/

namespace Handheld

/-- A console and the hub that its events go to. -/
structure Session where
  console : Console
  hub : Trace.Hub := .traced

namespace Session

/-- Delivers what waits in the console's outbox. -/
def deliver : Attempt Session Unit := do
  let session ← get
  let waiting := session.console.outbox.reverse
  set { session with console := { session.console with outbox := [] } }
  Attempt.on hub (fun hub session => { session with hub }) (Trace.Hub.emitAll waiting)

/-- A new console at a hub, with everything delivered that it has announced so far. -/
def ofCartridge (hub : Trace.Hub) (cartridge : Cartridge) (settings : Settings)
    (wishes : Settings.Wishes) : Except Error Session := do
  let console ← Console.ofCartridge cartridge settings wishes
  let (outcome, session) := deliver.perform { console, hub }
  outcome.map fun _ => session

/-- Carries out an action on the console and delivers what it announces. -/
def act {α : Type} (action : Attempt Console α) : Attempt Session α := do
  let (outcome, console) := action.perform (← get).console
  modify fun session => { session with console }
  deliver
  match outcome with
  | .ok answer => return answer
  | .error error => throw error

/-- Changes the console, which announces nothing or something but does not fail. -/
def change (change : Console → Console) : Attempt Session Unit :=
  act (modify change)

/-- The first run of a new console, for a number of steps that the host gives. -/
def boot (steps : Json) : Attempt Session Unit :=
  act do
    let limits ← Attempt.expect (Console.Limits.ofJson steps .null)
    let _ ← Attempt.ofFunction (Console.run limits)

/-- Lets a keeper follow the console's events, or stops it. -/
def observe (name : Label) (on : Bool) (session : Session) : Session where
  console := { session.console with announcing := on }
  hub :=
    if on then session.hub.register (.keeper name none) else session.hub.unregister name

end Session

end Handheld
