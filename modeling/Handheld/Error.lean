import Handheld.Cartridge.Header
import Handheld.Cpu.Basic
import Handheld.Json.Parser
import Handheld.Json.Printer

/-!
Everything that can go wrong, by its cause, and the wording of the reports.
-/

namespace Handheld

/-- Why the length of an access log is not accepted. -/
inductive LogRefusal
  | negative
  /-- Beyond all lengths, in either direction. -/
  | outOfRange
  deriving DecidableEq, Repr

/-- Why settings are not accepted. -/
inductive SettingsRefusal
  | cyclesPerFrame
  | accessLogLimit
  /-- A setting that does not exist. -/
  | unknown
  deriving DecidableEq, Repr

/-- Why a saved machine is not loaded. -/
inductive BundleRefusal
  /-- Nothing has been saved there. -/
  | absent
  /-- A member of the bundle is missing. -/
  | missingMember
  | magic
  | version
  /-- The bundle names another cartridge, or something that is no cartridge at all. -/
  | otherCartridge (found : Json) (expected : String)
  | workRamSize
  | highRamSize
  | registersLength (expected got : Nat)

/-- Everything that can go wrong. -/
inductive Error
  /-- A given value does not fit where it was given. -/
  | misfit (reason : Misfit)
  | undefinedOpcode (fault : Cpu.Fault)
  /-- A step was asked of a console that has met an undefined opcode before. -/
  | halted (fault : Cpu.Fault)
  /-- Time was asked to run backwards. -/
  | rewind (amount : Number)
  | notTimerRegister (address : Int)
  | notSerialRegister (address : Int)
  /-- A register window was accessed outside its bytes. -/
  | outsideWindow
  | windowSize (name expected : Text) (got : Nat)
  | externalRamSize (expected got : Nat)
  | cartridge (refusal : Cartridge.Refusal)
  /-- Bytes hold no text in any encoding. -/
  | undecodable
  /-- A text has no bytes in any encoding. -/
  | unencodable
  /-- A text is no document. -/
  | document (refusal : Json.Refusal)
  | log (refusal : LogRefusal)
  | settings (refusal : SettingsRefusal)
  | bundle (refusal : BundleRefusal)
  /-- A register holds a number that its place in a saved machine cannot hold. -/
  | registerWidth
  /-- A trace could not be written. -/
  | traceNotSaved
  /-- A scenario was given neither a console nor a cartridge. -/
  | nothingToRun

/-- The wording of a refused bundle, where there is one. -/
def BundleRefusal.message? : BundleRefusal → Option Text
  | .absent | .missingMember => none
  | .magic => some "Snapshot magic mismatch"
  | .version => some "Unsupported snapshot version"
  | .otherCartridge found expected =>
    some ("Snapshot was taken with cartridge " ++ found.shown ++ ", not "
      ++ Text.quoted expected)
  | .workRamSize => some "wram.bin size mismatch"
  | .highRamSize => some "hram.bin size mismatch"
  | .registersLength expected got =>
    some ("registers.bin length mismatch (expected " ++ toString expected ++ ", got "
      ++ toString got ++ ")")

/-- A size and the size that was expected. -/
private def sizes (expected : Text) (got : Nat) : Text :=
  " size mismatch (expected " ++ expected ++ ", got " ++ toString got ++ ")"

/-- The wording of an error, where there is one. -/
def Error.message? : Error → Option Text
  | .misfit _ | .outsideWindow | .log _ | .registerWidth | .traceNotSaved => none
  | .undecodable | .unencodable | .document _ => none
  | .undefinedOpcode fault => some fault.message
  | .halted fault => some ("console halted by earlier fault: " ++ fault.message)
  | .rewind amount => some ("Cannot rewind the cycle clock by " ++ amount.text)
  | .notTimerRegister address =>
    some ("Address 0x" ++ Text.hex 4 address ++ " is not a timer register")
  | .notSerialRegister address =>
    some ("Address 0x" ++ Text.hex 4 address ++ " is not a serial register")
  | .windowSize name expected got => some (name ++ sizes expected got)
  | .externalRamSize expected got => some ("external RAM" ++ sizes (toString expected) got)
  | .cartridge refusal => some refusal.message
  | .settings .cyclesPerFrame => some "cycles_per_frame must be positive"
  | .settings .accessLogLimit => some "access_log_limit cannot be negative"
  | .settings _ => none
  | .bundle refusal => refusal.message?
  | .nothingToRun => some "SnapshotOrchestrator needs a console or a cartridge"

end Handheld
