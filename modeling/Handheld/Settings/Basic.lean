import Handheld.Json.Parser
import Handheld.Settings.Sheet

/-!
The settings of a machine that are no part of its state, and their reading from documents.
-/

namespace Handheld

/-- The settings of a machine. The name and the trace path are kept as they were given. -/
structure Settings where
  name : Json := .string "DMG"
  cpuFrequency : Int := Settings.usualFrequency
  cyclesPerFrame : Int := Handheld.cyclesPerFrame
  /-- How many accesses each log keeps; zero switches the logs off. -/
  accessLogLimit : Int := 0
  /-- Whether the host shows what is sent on the serial link. -/
  serialEcho : Bool := false
  traceEnabled : Bool := false
  tracePath : Json := .null
  cyclesPerFrame_pos : 0 < cyclesPerFrame := by decide
  accessLogLimit_nonneg : 0 ≤ accessLogLimit := by decide

namespace Settings

/-- The settings written down. -/
def sheet (settings : Settings) : Sheet where
  name := settings.name
  cpuFrequency := .int settings.cpuFrequency
  cyclesPerFrame := .int settings.cyclesPerFrame
  accessLogLimit := .int settings.accessLogLimit
  serialEcho := .bool settings.serialEcho
  traceEnabled := .bool settings.traceEnabled
  tracePath := settings.tracePath

/-- Reads settings from a document. Members that mean nothing are passed over, missing ones have
their usual values, and numbers and switches are read as leniently as in saved states. -/
def ofJson (document : Json) : Except Error Settings := do
  let usual : Settings := {}
  let readInt (key : Text) (default : Int) : Except Error Int :=
    (document.intMember key default).mapError .misfit
  let readSwitch (key : Text) (default : Bool) : Except Error Bool :=
    (document.switchMember key default).mapError .misfit
  let name ← (document.member "name" usual.name).mapError .misfit
  let cpuFrequency ← readInt "cpu_frequency" usual.cpuFrequency
  let cyclesPerFrame ← readInt "cycles_per_frame" usual.cyclesPerFrame
  let accessLogLimit ← readInt "access_log_limit" usual.accessLogLimit
  let serialEcho ← readSwitch "serial_echo" usual.serialEcho
  let traceEnabled ← readSwitch "trace_enabled" usual.traceEnabled
  let tracePath ← (document.member "trace_path" usual.tracePath).mapError .misfit
  if cyclesPerFrame_pos : 0 < cyclesPerFrame then
    if accessLogLimit_nonneg : 0 ≤ accessLogLimit then
      return {
        name, cpuFrequency, cyclesPerFrame, accessLogLimit, serialEcho, traceEnabled, tracePath
        cyclesPerFrame_pos, accessLogLimit_nonneg }
    else throw (.settings .accessLogLimit)
  else throw (.settings .cyclesPerFrame)

/-- Reads settings from the text of a document. -/
def load (text : Text) (limits : Json.Limits := {}) : Except Error Settings := do
  ofJson (← (Json.parse text limits).mapError .document)

end Settings

end Handheld
