import Handheld.Attempt

/-!
The divider, which always runs, and the counter, which runs at a selected rate and asks for an
interrupt whenever it overflows.
-/

namespace Handheld

/-- The state of the timer. -/
structure Timer where
  /-- A counter of clock cycles; the bus shows its high byte. -/
  divider : Word := 0x1800
  /-- The counter. -/
  tima : Byte := 0
  /-- What the counter is loaded with after an overflow. -/
  tma : Byte := 0
  /-- The three bits of the control register that exist. -/
  tac : BitVec 3 := 0
  /-- Cycles counted towards the next increment of the counter. -/
  prescaler : Int := 0
  overflows : Int := 0
  deriving DecidableEq, Repr

namespace Timer

/-- The registers of the timer. -/
inductive Register
  | div
  | tima
  | tma
  | tac
  deriving DecidableEq, Repr

/-- The register at an address. -/
def register? (address : Int) : Option Register :=
  match address with
  | 0xFF04 => some .div
  | 0xFF05 => some .tima
  | 0xFF06 => some .tma
  | 0xFF07 => some .tac
  | _ => none

/-- Whether the counter runs. -/
def enabled (timer : Timer) : Bool :=
  timer.tac.getLsbD 2

/-- The cycles between two increments of the counter. -/
def period (timer : Timer) : Nat :=
  match timer.tac.toNat % 4 with
  | 0 => 1024
  | 1 => 16
  | 2 => 64
  | _ => 256

/-- The divider as the bus shows it. -/
def div (timer : Timer) : Byte :=
  timer.divider.extractLsb' 8 8

/-- The control register as the bus shows it: the five bits without hardware read as one. -/
def control (timer : Timer) : Byte :=
  0xF8#8 ||| timer.tac.setWidth 8

/-- One increment of the counter. An overflow loads it anew, is counted and raises a request. -/
def increment : Timer × Interrupts → Timer × Interrupts
  | (timer, interrupts) =>
    if timer.tima = 0xFF then
      ({ timer with tima := timer.tma, overflows := timer.overflows + 1 },
        interrupts.request .timer)
    else
      ({ timer with tima := timer.tima + 1 }, interrupts)

/-- A number of increments, one after the other. -/
def increments : Nat → Timer × Interrupts → Timer × Interrupts
  | 0, state => state
  | count + 1, state => increments count (increment state)

/-- Lets cycles pass. -/
def tick (cycles : Int) (timer : Timer) (interrupts : Interrupts) : Timer × Interrupts :=
  let timer := { timer with divider := Word.ofInt (timer.divider.value + cycles) }
  if timer.enabled then
    let total := timer.prescaler + cycles
    let count := (total / timer.period).toNat
    increments count
      ({ timer with prescaler := total - count * timer.period }, interrupts)
  else
    (timer, interrupts)

/-- A write to the divider: both counts of cycles start again. -/
def resetDivider (timer : Timer) : Timer :=
  { timer with divider := 0, prescaler := 0 }

/-- What the bus reads from a register. -/
def get (timer : Timer) : Register → Byte
  | .div => timer.div
  | .tima => timer.tima
  | .tma => timer.tma
  | .tac => timer.control

/-- A write of a byte to a register. Selecting another rate drops the cycles counted so far. -/
def set (timer : Timer) (register : Register) (value : Byte) : Timer :=
  match register with
  | .div => timer.resetDivider
  | .tima => { timer with tima := value }
  | .tma => { timer with tma := value }
  | .tac =>
    let tac := value.setWidth 3
    let sameRate := tac.toNat % 4 = timer.tac.toNat % 4
    { timer with tac, prescaler := if sameRate then timer.prescaler else 0 }

/-- Reads the register at an address. -/
def read (timer : Timer) (address : Int) : Except Error Byte :=
  match register? address with
  | some register => .ok (timer.get register)
  | none => .error (.notTimerRegister address)

/-- Writes the register at an address. -/
def write (timer : Timer) (address value : Int) : Except Error Timer :=
  match register? address with
  | some register => .ok (timer.set register (Byte.ofInt value))
  | none => .error (.notTimerRegister address)

/-- The timer as a saved state holds it. -/
def saved (timer : Timer) : Json :=
  .object [
    ("divider", .int timer.divider.value),
    ("tima", .int timer.tima.value),
    ("tma", .int timer.tma.value),
    ("tac", .int timer.control.value),
    ("tima_cycles", .int timer.prescaler),
    ("overflow_count", .int timer.overflows)]

/-- Takes over a saved state, field by field. The count of cycles is taken as it is. -/
def restore (state : Json) : Attempt Timer Unit := do
  let divider ← Attempt.expect (state.intMember "divider" 0x1800)
  modify fun timer => { timer with divider := Word.ofInt divider }
  let tima ← Attempt.expect (state.intMember "tima" 0)
  modify fun timer => { timer with tima := Byte.ofInt tima }
  let tma ← Attempt.expect (state.intMember "tma" 0)
  modify fun timer => { timer with tma := Byte.ofInt tma }
  let tac ← Attempt.expect (state.intMember "tac" 0)
  modify fun timer => { timer with tac := BitVec.ofInt 3 tac }
  let prescaler ← Attempt.expect (state.intMember "tima_cycles" 0)
  modify fun timer => { timer with prescaler }
  let overflows ← Attempt.expect (state.intMember "overflow_count" 0)
  modify fun timer => { timer with overflows }

end Timer

end Handheld
