import Handheld.Json.Basic

/-!
Changing a JSON value at a path of keys.
-/

namespace Handheld.Json

/-- Changes the members of the object that a path leads to. Every key on the way has to be there. -/
def editMembers (change : List (Text × Json) → List (Text × Json))
    : List Text → Json → Except Misfit Json
  | [], .object members => .ok (.object (change members))
  | key :: path, .object members => do
    let some value := members.lookup key | throw .unknownName
    return .object (insertMember key (← editMembers change path value) members)
  | _, _ => .error .wrongSort

/-- Sets the value at a path. -/
def setAt (path : List Text) (value document : Json) : Except Misfit Json :=
  match path.getLast? with
  | some key => editMembers (insertMember key value) path.dropLast document
  | none => .ok document

/-- Removes the member at a path, if it is there. -/
def removeAt (path : List Text) (document : Json) : Except Misfit Json :=
  match path.getLast? with
  | some key => editMembers (·.filter fun (k, _) => k ≠ key) path.dropLast document
  | none => .ok document

end Handheld.Json
