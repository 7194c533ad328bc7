import Handheld.Console.Basic

/-!
Steps and runs of a console. The timer sees the cycles of a step after the processor has finished,
so a request that it raises is served in the next step at the earliest.
-/

namespace Handheld

namespace Console

/-- What a successful step announces: the time, an interrupt served, overflows of the timer, other
banks than announced last, and the progress made. -/
def stepEvents (cycles : Nat) (overflows : Int) (console : Console) : List Trace.Event :=
  let served :=
    match console.cpu.lastInterrupt with
    | some source => [Trace.Event.interrupt (.string source.name) (.int source.vector) (.int cycles)]
    | none => []
  let overflowed :=
    if overflows ≠ 0 then
      [Trace.Event.overflow (.int overflows) (.int console.memory.timer.tima.value)]
    else []
  let (romBank, ramBank) := console.banks
  let switched :=
    if console.banks ≠ console.announcedBanks then
      [Trace.Event.bankSwitch (.int romBank) (.int ramBank)]
    else []
  [Trace.Event.clock (.int console.clock.cycles)] ++ served ++ overflowed ++ switched
    ++ Trace.Event.progress (.int console.cpu.instructionCount) (.int console.clock.cycles)

/-- Announces a successful step, if steps are announced. -/
def announceStep (cycles : Nat) (overflows : Int) (console : Console) : Console :=
  if console.announcing then
    { console.announce (console.stepEvents cycles overflows) with
      announcedBanks := console.banks }
  else console

/-- Keeps a fault and announces it, if steps are announced. -/
def keepFault (fault : Cpu.Fault) (console : Console) : Console :=
  let kept := { console with fault := some fault }
  if kept.announcing then
    kept.announce [.fault (.int fault.opcode.value) (.int fault.pc)]
  else kept

/-- Lets the timer see the cycles of a step. -/
def tickTimer (cycles : Nat) : Console → Console :=
  onCore fun core =>
    let (timer, interrupts) := core.memory.timer.tick cycles core.interrupts
    { core with interrupts, memory := { core.memory with timer } }

/-- What follows a successful step of the processor: the timer sees its cycles, and everything that
has happened is announced. -/
def conclude (cycles : Nat) (console : Console) : Console :=
  let ticked := tickTimer cycles console
  announceStep cycles (ticked.memory.timer.overflows - console.memory.timer.overflows) ticked

/-- One step and the cycles it took. An undefined opcode ends all execution: from then on every
step fails until a reset or a successful load. -/
def step (console : Console) : Except Error Nat × Console :=
  match console.fault with
  | some fault => (.error (.halted fault), console)
  | none =>
    match console.toClocked.step Memory.bus with
    | (.error fault, machine) =>
      (.error (.undefinedOpcode fault), keepFault fault { console with toClocked := machine })
    | (.ok cycles, machine) => (.ok cycles, conclude cycles { console with toClocked := machine })

/-- What ends a run besides a request to stop: a number of steps, or a position of the clock. -/
structure Limits where
  steps : Option Int := none
  goal : Option Int := none
  deriving DecidableEq, Repr

namespace Limits

/-- The whole number at which a limit is reached that may be any number. What no count comes up to
is no limit, and what lies below all counts is reached at zero. -/
def bound : Number → Option Int
  | .int value => some value
  | .float value =>
    if Number.isFinite (.float value) then some (Decimal.ceil value)
    else if value < 0 then some 0
    else none

/-- A number of steps that a host gives. No step at all is within an undefined number. -/
def stepsOf : Json → Except Misfit (Option Int)
  | .null => .ok none
  | value => do
    match ← value.toNumber with
    | .float number => return if number.isNaN then some 0 else bound (.float number)
    | number => return bound number

/-- Limits that a host gives, where nothing is no limit. Fractions count, and a position is not
looked at if no step is to be taken anyway. -/
def ofJson (steps goal : Json) : Except Misfit Limits := do
  let steps ← stepsOf steps
  match goal with
  | .null => return { steps }
  | goal =>
    if steps.any (· ≤ 0) then return { steps }
    return { steps, goal := bound (← goal.toNumber) }

/-- Whether a limit is reached after some steps, when the clock stands at `cycles`. -/
def reached (limits : Limits) (taken : Nat) (cycles : Int) : Bool :=
  limits.steps.any (· ≤ (taken : Int)) || limits.goal.any (· ≤ cycles)

/-- A number of steps within which a limit is reached, as every step takes a cycle at least. A run
without any limit is given more steps than a host can wait for. -/
def patience (limits : Limits) (cycles : Int) : Nat :=
  match limits.steps, limits.goal with
  | some steps, _ => steps.toNat
  | none, some goal => (goal - cycles).toNat
  | none, none => 0x10000000000000000

end Limits

end Console

/-- How something runs that takes the steps of a console. -/
structure Runner (σ : Type) where
  console : σ → Console
  onConsole : (Console → Console) → σ → σ
  step : σ → Except Error Nat × σ

namespace Runner

variable {σ : Type}

/-- The position of the clock. -/
def cycles (runner : Runner σ) (state : σ) : Int :=
  (runner.console state).clock.cycles

/-- Takes steps until a limit is reached, a stop has been asked for, or a step fails. -/
def runFrom (runner : Runner σ) (limits : Console.Limits)
    : Nat → Nat → σ → Except Error Nat × σ
  | 0, taken, state => (.ok taken, state)
  | patience + 1, taken, state =>
    if limits.reached taken (runner.cycles state) then (.ok taken, state)
    else if (runner.console state).stopRequested then
      (.ok taken, runner.onConsole (fun console => { console with stopRequested := false }) state)
    else
      match runner.step state with
      | (.ok _, state) => runFrom runner limits patience (taken + 1) state
      | (.error error, state) => (.error error, state)

/-- Runs within limits and answers the number of steps taken. A request to stop is used up. -/
def run (runner : Runner σ) (limits : Console.Limits) (state : σ) : Except Error Nat × σ :=
  runFrom runner limits (limits.patience (runner.cycles state)) 0 state

/-- Runs within limits and answers the cycles that took. -/
def elapse (runner : Runner σ) (limits : Console.Limits) (state : σ) : Except Error Int × σ :=
  let (outcome, later) := runner.run limits state
  (outcome.map fun _ => runner.cycles later - runner.cycles state, later)

/-- Runs until the clock reaches a position. The last step may overshoot it. -/
def runUntil (runner : Runner σ) (goal : Int) : σ → Except Error Int × σ :=
  runner.elapse { goal := some goal }

/-- Runs for the length of a frame. -/
def runFrame (runner : Runner σ) (state : σ) : Except Error Int × σ :=
  runner.runUntil (runner.cycles state + (runner.console state).settings.cyclesPerFrame) state

end Runner

namespace Console

/-- A console takes its own steps. -/
def runner : Runner Console where
  console := id
  onConsole := id
  step := step

/-- Runs within limits and answers the number of steps taken. A request to stop is used up. -/
def run (limits : Limits) : Console → Except Error Nat × Console :=
  runner.run limits

/-- Runs until the clock reaches a position. The last step may overshoot it. -/
def runUntil (goal : Int) : Console → Except Error Int × Console :=
  runner.runUntil goal

/-- Runs for the length of a frame. -/
def runFrame : Console → Except Error Int × Console :=
  runner.runFrame

end Console

end Handheld
