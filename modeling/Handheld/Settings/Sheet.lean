import Handheld.Clock

/-!
The sheet on which a machine's settings are written down. A sheet takes any value in any field and
refuses only a field that does not exist and the two limits that make no sense.
-/

namespace Handheld

namespace Settings

/-- Clock cycles in a second. -/
abbrev usualFrequency : Int := 4194304

/-- Settings as they are written down. -/
structure Sheet where
  name : Json := .string "DMG"
  cpuFrequency : Json := .int usualFrequency
  cyclesPerFrame : Json := .int Handheld.cyclesPerFrame
  accessLogLimit : Json := .int 0
  serialEcho : Json := .bool false
  traceEnabled : Json := .bool false
  tracePath : Json := .null

namespace Sheet

/-- The fields of a sheet in their order. -/
def members (sheet : Sheet) : List (Text × Json) :=
  [("name", sheet.name), ("cpu_frequency", sheet.cpuFrequency),
    ("cycles_per_frame", sheet.cyclesPerFrame), ("access_log_limit", sheet.accessLogLimit),
    ("serial_echo", sheet.serialEcho), ("trace_enabled", sheet.traceEnabled),
    ("trace_path", sheet.tracePath)]

/-- A sheet as a document. -/
def toJson (sheet : Sheet) : Json :=
  .object sheet.members

/-- The text of the document, with one field on each line. -/
def text (sheet : Sheet) : String :=
  sheet.toJson.indented 0

/-- Whether two sheets say the same. -/
def same (a b : Sheet) : Bool :=
  a.toJson.same b.toJson

/-- Refuses a frame without cycles and a log of negative length, in this order. -/
def check (sheet : Sheet) : Except Error Unit := do
  let cycles ← sheet.cyclesPerFrame.toNumber.mapError .misfit
  if cycles.isNegative || !cycles.isNonzero then
    throw (.settings .cyclesPerFrame)
  let limit ← sheet.accessLogLimit.toNumber.mapError .misfit
  if limit.isNegative then
    throw (.settings .accessLogLimit)

/-- A sheet on which some fields are filled in. -/
def ofMembers (given : List (Text × Json)) : Except Error Sheet := do
  let usual : Sheet := {}
  if given.any fun (key, _) => (usual.members.lookup key).isNone then
    throw (.settings .unknown)
  let field (key : Text) (default : Json) : Json := (given.lookup key).getD default
  let sheet : Sheet :=
    { name := field "name" usual.name
      cpuFrequency := field "cpu_frequency" usual.cpuFrequency
      cyclesPerFrame := field "cycles_per_frame" usual.cyclesPerFrame
      accessLogLimit := field "access_log_limit" usual.accessLogLimit
      serialEcho := field "serial_echo" usual.serialEcho
      traceEnabled := field "trace_enabled" usual.traceEnabled
      tracePath := field "trace_path" usual.tracePath }
  sheet.check
  return sheet

end Sheet

end Settings

end Handheld
