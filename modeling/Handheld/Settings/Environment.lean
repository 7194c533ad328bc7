import Handheld.Error
import Handheld.Text.FoldedCase
import Handheld.Trace.Event

/-!
What the surroundings of a machine ask for through environment variables.
-/

namespace Handheld.Settings

/-- The environment variables that are set, with their texts. -/
abbrev Environment := List (Text × Text)

/-- Whether a code point can be part of a variable. Among the surrogates, those can that stand for
single bytes. -/
def Environment.canHold : CodePoint → Bool
  | .char _ => true
  | .surrogate offset => 0x480 ≤ offset ∧ offset < 0x500

/-- The text that a variable can be set to. -/
def Environment.readText (value : Json) : Except Error Text := do
  let .string text := value | throw (.misfit .wrongSort)
  if !text.points.all canHold then
    throw .unencodable
  if text.points.contains (.char (Char.ofNat 0)) then
    throw (.misfit .unreadable)
  return text

/-- The environment in which some variables are set. -/
def Environment.ofMembers (members : List (Text × Json)) : Except Error Environment :=
  members.mapM fun (name, value) => return (name, ← readText value)

/-- The words for off. -/
def Environment.wordsForOff : List String := ["0", "false", "off", ""]

/-- Whether the text of a variable switches something on: whatever is not one of a few words for
off, in any case and with blanks around it. -/
def Environment.saysOn (text : Text) : Bool :=
  match text.chars? with
  | some chars =>
    !wordsForOff.contains (String.ofList (Text.foldCase (Text.strip Text.isBlank chars)))
  | none => true

/-- Whether a variable is set and switches something on. -/
def Environment.flag (environment : Environment) (name : Text) : Bool :=
  ((environment.lookup name).map saysOn).getD false

/-- What the surroundings ask for. The trace path may be any value that settings bring in. -/
structure Wishes where
  trace : Bool
  tracePath : Json
  memoryLog : Bool

/-- What a host asks for in place of the surroundings. It has to say all three things and nothing
else. -/
def Wishes.ofJson (given : Json) : Except Misfit Wishes := do
  let .object members := given | throw .wrongSort
  let some trace := given.find? "trace" | throw .wrongSort
  let some tracePath := given.find? "trace_path" | throw .wrongSort
  let some memoryLog := given.find? "memory_log" | throw .wrongSort
  if members.length ≠ 3 then
    throw .wrongSort
  return { trace := trace.isOn, tracePath, memoryLog := memoryLog.isOn }

/-- Reads the environment. For the trace path the environment comes first, then a given path, then
the usual one; an empty path counts as none. -/
def Environment.wishes (environment : Environment) (tracePath : Json) : Wishes where
  trace := environment.flag "DMG_TRACE"
  tracePath :=
    match environment.lookup ("DMG_TRACE_PATH" : Text) with
    | some path => if path.isEmpty then fallback else .string path
    | none => fallback
  memoryLog := environment.flag "DMG_MEMORY_LOG"
where
  fallback : Json := if tracePath.isOn then tracePath else .string Trace.usualPath

end Handheld.Settings
