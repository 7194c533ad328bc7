import Handheld.Text.Basic

/-!
File paths in their plain form.
-/

namespace Handheld.Text

private abbrev slash : CodePoint := .char '/'

/-- The parts of a path between the slashes, without empty parts and single dots. -/
def pathParts (path : List CodePoint) : List (List CodePoint) :=
  (path.splitOn slash).filter fun part => part ≠ [] ∧ part ≠ [.char '.']

/-- The slashes in front of a path that matter: exactly two stay two, more than two count as
one. -/
def pathRoot : List CodePoint → List CodePoint
  | .char '/' :: .char '/' :: .char '/' :: _ => [slash]
  | .char '/' :: .char '/' :: _ => [slash, slash]
  | .char '/' :: _ => [slash]
  | _ => []

/-- A path without repeated slashes, single dots and a slash at its end. Parts that lead upwards
stay. Nothing at all is the current directory. -/
def plainPath (path : Text) : Text :=
  let points := pathRoot path.points ++ List.intercalate [slash] (pathParts path.points)
  if points.isEmpty then "." else ⟨points⟩

end Handheld.Text
