import Handheld.Json.Members
import Handheld.Session

/-!
Scenarios: a session is driven by inputs, and after each of them a snapshot tells where the machine
stands.
-/

namespace Handheld

/-- What is done to a machine before and during one move. With both limits, the move ends at
whichever is reached first; with none, the machine does not run at all. -/
structure Move where
  /-- How many steps the move may take. -/
  steps : Json := .int 1
  /-- How many cycles the move may take. -/
  budget : Json := .null
  requests : List Source := []
  press : List Key := []
  release : List Key := []
  metadata : Json := .object []

namespace Move

/-- The names of the parts of a move. -/
def partNames : List String :=
  ["max_instructions", "cycle_budget", "request_interrupts", "press_keys", "release_keys",
    "metadata"]

/-- What the elements of a part name. Without the part nothing is named. -/
def namesOf {α : Type} (find? : Text → Option α) (given : Json) (part : String)
    : Except Misfit (List α) :=
  match given.find? part with
  | some names => do (← names.elements).mapM (·.toNamed find?)
  | none => .ok []

/-- Reads a move. Parts may be left out but not made up, and the limits are taken as they are. -/
def ofJson (given : Json) : Except Misfit Move := do
  let .object members := given | throw .wrongSort
  let requests ← namesOf Source.ofName? given "request_interrupts"
  let press ← namesOf Key.ofName? given "press_keys"
  let release ← namesOf Key.ofName? given "release_keys"
  if members.any fun (key, _) => partNames.all fun name => key ≠ name then
    throw .wrongSort
  let usual : Move := {}
  return {
    steps := (given.find? "max_instructions").getD usual.steps
    budget := (given.find? "cycle_budget").getD usual.budget
    requests, press, release
    metadata := (given.find? "metadata").getD usual.metadata }

/-- The limits of a move that starts at some position of the clock, if the machine is to run. -/
def limits (move : Move) (cycles : Int) : Except Misfit (Option Console.Limits) :=
  match move.steps, move.budget with
  | .null, .null => .ok none
  | steps, .null => do return some (← Console.Limits.ofJson steps .null)
  | steps, budget => do
    let goal := (Number.int cycles).add (← budget.toNumber)
    return some (← Console.Limits.ofJson steps (.number goal))

end Move

/-- Where a machine stands after a move. -/
structure Standing where
  registers : Cpu.Registers
  halted : Bool
  instructionCount : Int
  cycleCount : Int
  interrupts : Console.InterruptState
  timer : Timer
  serial : Console.SerialState
  romBank : Int
  ramBank : Int
  reads : List Memory.Access
  writes : List Memory.Access
  /-- How many steps the move took, as the host has it told. -/
  executed : Json
  metadata : List (Text × Json)

/-- A session in which scenarios are played, with the keepers that take part in them. -/
structure Scenario where
  session : Session
  keepers : List Label := []

namespace Scenario

/-- A scenario with a session that is there already, or with a new console for a cartridge. -/
def ofParts (session : Option Session) (cartridge : Option Cartridge) (settings : Settings := {})
    (wishes : Settings.Wishes := Settings.Environment.wishes [] settings.tracePath)
    : Except Error Scenario :=
  match session, cartridge with
  | some session, _ => .ok { session }
  | none, some cartridge => do
    return { session := ← Session.ofCartridge .traced cartridge settings wishes }
  | none, none => .error .nothingToRun

/-- Carries out an action on the session. -/
def inSession {α : Type} (action : Attempt Session α) : Attempt Scenario α :=
  Attempt.on session (fun session scenario => { scenario with session }) action

/-- Carries out an action on the console. -/
def act {α : Type} (action : Attempt Console α) : Attempt Scenario α :=
  inSession (Session.act action)

/-- The keys and requests of a move: first keys go up, then keys go down, then requests rise. -/
def applyInputs (move : Move) (console : Console) : Console :=
  let released := move.release.foldl (fun console key => console.release key) console
  let pressed := move.press.foldl (fun console key => console.press key) released
  move.requests.foldl (fun console source => console.requestInterrupt source) pressed

/-- Makes a move and answers the number of steps taken. -/
def apply (move : Move) : Attempt Scenario Nat :=
  act do
    modify (applyInputs move)
    match ← Attempt.expect (move.limits (← get).clock.cycles) with
    | none => return 0
    | some limits => Attempt.ofFunction (Console.run limits)

/-- Where a console stands. -/
def standing (executed : Json) (metadata : List (Text × Json)) (console : Console)
    : Standing where
  registers := console.cpu.registers.settled
  halted := console.cpu.halted
  instructionCount := console.cpu.instructionCount
  cycleCount := console.clock.cycles
  interrupts := console.interruptState
  timer := console.memory.timer
  serial := console.serialState
  romBank := console.cartridge.romBank
  ramBank := console.cartridge.ramBank
  reads := console.memory.log.reads.entries
  writes := console.memory.log.writes.entries
  executed := executed
  metadata := metadata

/-- Where the machine stands now. -/
def look (executed metadata : Json) : Attempt Scenario Standing := do
  let metadata ← Attempt.expect metadata.toMembers
  return standing executed metadata (← get).session.console

/-- Makes a move and tells where the machine stands afterwards. -/
def step (move : Move) : Attempt Scenario Standing := do
  let executed ← apply move
  look (.int executed) move.metadata

/-- Makes moves one after the other, and tells where the machine stands after each and, if asked,
at the start. -/
def play (moves : List Move) (includeStart : Bool) : Attempt Scenario (List Standing) := do
  let start ← look (.int 0) .null
  let standings ← moves.mapM step
  return if includeStart then start :: standings else standings

/-- Lets a keeper follow all events. From here on steps are announced. -/
def register (name : Label) (scenario : Scenario) : Scenario where
  session := scenario.session.observe name true
  keepers := if name ∈ scenario.keepers then scenario.keepers else scenario.keepers ++ [name]

/-- Drops a keeper, if it takes part in this scenario. -/
def unregister (name : Label) (scenario : Scenario) : Scenario :=
  if name ∈ scenario.keepers then
    { session := { scenario.session with hub := scenario.session.hub.unregister name }
      keepers := scenario.keepers.erase name }
  else scenario

/-- Drops all keepers that take part and ends the trace that the console has begun. -/
def close : Attempt Scenario Unit := do
  modify fun scenario =>
    scenario.keepers.foldl (fun scenario name => scenario.unregister name) scenario
  inSession (Session.change Console.stopTracing)

end Scenario

end Handheld
