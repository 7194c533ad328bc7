import Handheld.Json.Basic
import Handheld.Text.Path

/-!
The events by which a running machine lets others follow it.
-/

namespace Handheld.Trace

/-- What a trace is written to when nothing else is said. -/
abbrev usualPath : String := "dmg.perfetto-trace"

/-- The tracks that events of a machine belong to. -/
inductive Track
  | cpu
  | interrupts
  | timer
  | cartridge
  deriving DecidableEq, Repr

namespace Track

/-- All tracks in their order. -/
def all : List Track := [.cpu, .interrupts, .timer, .cartridge]

/-- The name of a track. -/
def name : Track → String
  | .cpu => "CPU"
  | .interrupts => "Interrupts"
  | .timer => "Timer"
  | .cartridge => "Cartridge"

end Track

/-- The kinds of events. -/
inductive Kind
  /-- A trace begins. -/
  | start
  /-- The trace ends. -/
  | stop
  /-- Something happened. -/
  | instant
  /-- A quantity has a new value. -/
  | counter
  /-- Time has moved on. -/
  | clock
  deriving DecidableEq, Repr

namespace Kind

/-- All kinds. -/
def all : List Kind := [.start, .stop, .instant, .counter, .clock]

/-- The name of a kind. -/
def name : Kind → String
  | .start => "start"
  | .stop => "stop"
  | .instant => "instant"
  | .counter => "counter"
  | .clock => "clock"

/-- The kind with a given name. -/
def ofName? (name : Text) : Option Kind :=
  all.find? fun kind => kind.name = name

end Kind

/-- One event. Hosts may make events of their own, so every part but the kind can be anything. -/
structure Event where
  kind : Kind
  /-- The track that the event belongs to, if any. -/
  thread : Json := .null
  name : Json := .null
  payload : Json := .object []

namespace Event

/-- A trace begins, to be written to a path. -/
def start (path : Text) : Event where
  kind := .start
  payload := .object [("output_path", .string (Text.plainPath path))]

/-- The trace ends. -/
def stop : Event where
  kind := .stop

/-- Something happened. Details that are empty or switched off are left out. -/
def instant (thread name details : Json) : Event where
  kind := .instant
  thread := thread
  name := name
  payload := if details.isOn then details else .object []

/-- A quantity has a new value. -/
def counter (name value : Json) (thread : Json := .string Track.cpu.name) : Event where
  kind := .counter
  thread := thread
  name := name
  payload := .object [("value", value)]

/-- The machine's clock has moved on. -/
def clock (cycles : Json) : Event where
  kind := .clock
  payload := .object [("cycles", cycles)]

/-- Something happened on one of the machine's tracks. -/
def onTrack (track : Track) (name : Json) (details : List (Text × Json)) : Event :=
  .instant (.string track.name) name (.object details)

/-- An interrupt has been served. -/
def interrupt (source vector cycles : Json) : Event :=
  onTrack .interrupts source [("vector", vector), ("cycles", cycles)]

/-- The timer's counter has overflowed. -/
def overflow (count tima : Json) : Event :=
  onTrack .timer (.string "TIMA overflow") [("count", count), ("tima", tima)]

/-- Other banks have been mapped. -/
def bankSwitch (romBank ramBank : Json) : Event :=
  onTrack .cartridge (.string "bank switch") [("rom_bank", romBank), ("ram_bank", ramBank)]

/-- The processor has met an undefined opcode. -/
def fault (opcode pc : Json) : Event :=
  onTrack .cpu (.string "fault") [("opcode", opcode), ("pc", pc)]

/-- How far the machine has come. -/
def progress (instructions cycles : Json) : List Event :=
  [.counter (.string "instructions") instructions, .counter (.string "cycles") cycles]

end Event

end Handheld.Trace
