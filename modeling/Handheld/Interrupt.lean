import Handheld.Bits
import Handheld.Text.Basic

/-!
The interrupt controller: which sources are enabled, which have asked for service, and the master
switch. Lower bits are served first.
-/

namespace Handheld

/-- The five interrupt sources, in order of priority. -/
inductive Source
  | vblank
  | lcdStat
  | timer
  | serial
  | joypad
  deriving DecidableEq, Repr

namespace Source

/-- All sources, the one that is served first in front. -/
def all : List Source := [.vblank, .lcdStat, .timer, .serial, .joypad]

/-- Rank in the order of service, which is also the index of the source's bit. -/
def priority : Source → Nat
  | .vblank => 0
  | .lcdStat => 1
  | .timer => 2
  | .serial => 3
  | .joypad => 4

/-- The request bit of a source. -/
def mask (source : Source) : BitVec 5 :=
  1#5 <<< source.priority

/-- Address of the routine that serves a source. -/
def vector (source : Source) : Int :=
  0x40 + 8 * source.priority

/-- The name under which reports and saved states mention a source. -/
def name : Source → String
  | .vblank => "VBLANK"
  | .lcdStat => "LCD_STAT"
  | .timer => "TIMER"
  | .serial => "SERIAL"
  | .joypad => "JOYPAD"

/-- The source with a given name. -/
def ofName? (name : Text) : Option Source :=
  all.find? fun source => source.name = name

end Source

/-- One running total per interrupt source. -/
structure Tally where
  vblank : Int := 0
  lcdStat : Int := 0
  timer : Int := 0
  serial : Int := 0
  joypad : Int := 0
  deriving DecidableEq, Repr

namespace Tally

/-- The total of one source. -/
def get (tally : Tally) : Source → Int
  | .vblank => tally.vblank
  | .lcdStat => tally.lcdStat
  | .timer => tally.timer
  | .serial => tally.serial
  | .joypad => tally.joypad

/-- Replaces the total of one source. -/
def set (tally : Tally) (source : Source) (total : Int) : Tally :=
  match source with
  | .vblank => { tally with vblank := total }
  | .lcdStat => { tally with lcdStat := total }
  | .timer => { tally with timer := total }
  | .serial => { tally with serial := total }
  | .joypad => { tally with joypad := total }

/-- Adds one to the total of one source. -/
def bump (tally : Tally) (source : Source) : Tally :=
  tally.set source (tally.get source + 1)

end Tally

/-- The state of the interrupt controller. Only five request bits exist, while the enable register
keeps all eight bits that are written to it. -/
structure Interrupts where
  enable : Byte := 0
  requests : BitVec 5 := 0
  master : Bool := false
  counts : Tally := {}
  deriving DecidableEq, Repr

namespace Interrupts

/-- The controller after a machine reset: the vertical blank request is already up. -/
def powerOn : Interrupts := { requests := 1 }

/-- Raises the request of a source and counts it. -/
def request (source : Source) (interrupts : Interrupts) : Interrupts :=
  { interrupts with
    requests := interrupts.requests ||| source.mask
    counts := interrupts.counts.bump source }

/-- Clears the request bit of exactly one source. -/
def acknowledge (source : Source) (interrupts : Interrupts) : Interrupts :=
  { interrupts with requests := interrupts.requests &&& ~~~source.mask }

/-- The requests whose sources are enabled. -/
def pending (interrupts : Interrupts) : BitVec 5 :=
  interrupts.enable.setWidth 5 &&& interrupts.requests

/-- Whether an enabled source asks for service, whatever the master switch says. -/
def hasPending (interrupts : Interrupts) : Bool :=
  interrupts.pending ≠ 0

/-- The enabled request that is served first. -/
def highest? (interrupts : Interrupts) : Option Source :=
  Source.all.find? fun source => interrupts.pending.getLsbD source.priority

/-- Sets the master switch. -/
def setMaster (enabled : Bool) (interrupts : Interrupts) : Interrupts :=
  { interrupts with master := enabled }

/-- The request register as the bus shows it: the three bits without hardware read as one. -/
def readRequests (interrupts : Interrupts) : Int :=
  0xE0 + interrupts.requests.toNat

/-- Replaces the request bits. -/
def writeRequests (value : Int) (interrupts : Interrupts) : Interrupts :=
  { interrupts with requests := BitVec.ofInt 5 value }

/-- The enable register as the bus shows it. -/
def readEnable (interrupts : Interrupts) : Int :=
  interrupts.enable.value

/-- Replaces the enable register. -/
def writeEnable (value : Int) (interrupts : Interrupts) : Interrupts :=
  { interrupts with enable := Byte.ofInt value }

end Interrupts

end Handheld
