import Handheld.Json.Basic

/-!
Labels: values that serve as names. Lists and objects cannot.
-/

namespace Handheld

/-- A value that serves as a name. -/
inductive Label
  | nothing
  | truth (value : Bool)
  | whole (value : Int)
  | fraction (bits : UInt64)
  | text (value : Text)
  deriving DecidableEq, Repr

namespace Label

instance : Coe String Label := ⟨fun string => .text string⟩

/-- The label that a value is. -/
def ofJson : Json → Except Misfit Label
  | .null => .ok .nothing
  | .bool value => .ok (.truth value)
  | .number (.int value) => .ok (.whole value)
  | .number (.float value) => .ok (.fraction value.toBits)
  | .string value => .ok (.text value)
  | _ => .error .wrongSort

/-- A label as a value. -/
def toJson : Label → Json
  | .nothing => .null
  | .truth value => .bool value
  | .whole value => .int value
  | .fraction bits => .float (Float.ofBits bits)
  | .text value => .string value

end Label

end Handheld
