import Handheld.Json.Printer

/-!
Members that are given as an object or as a list of pairs, and pairs under keys of any sort.
-/

namespace Handheld.Json

/-- The two elements of a value. The first one has to be fit for a key. -/
def toPair (value : Json) : Except Misfit (Json × Json) := do
  match ← value.elements with
  | [key, value] => return (← key.toKey, value)
  | _ => throw .unreadable

/-- Replaces the value of a key, which keeps its place, or adds the pair at the end. -/
def insertPair {α : Type} (pairs : List (Json × α)) (pair : Json × α) : List (Json × α) :=
  match pairs with
  | [] => [pair]
  | (key, value) :: rest =>
    if key.same pair.1 then (key, pair.2) :: rest else (key, value) :: insertPair rest pair

/-- The value of a key. -/
def findPair? {α : Type} (key : Json) (pairs : List (Json × α)) : Option α :=
  pairs.findSome? fun (other, value) => if other.same key then some value else none

/-- Pairs in the order of their keys, which have to be all numbers or all texts unless there is no
more than one. -/
def sortPairs (pairs : List (Json × Json)) : Except Misfit (List (Json × Json)) :=
  let byNumber := pairs.mapM fun pair => return (← pair.1.toNumber, pair)
  let byText := pairs.mapM fun pair =>
    match pair.1 with
    | .string text => some (text, pair)
    | _ => none
  match byNumber, byText with
  | .ok keyed, _ => .ok ((keyed.mergeSort fun a b => a.1.atMost b.1).map (·.2))
  | _, some keyed => .ok ((keyed.mergeSort fun a b => a.1.atMost b.1).map (·.2))
  | _, _ => if pairs.length ≤ 1 then .ok pairs else .error .wrongSort

/-- A key as the name of a member. -/
def keyText : Json → Text
  | .string text => text
  | key => key.compact

/-- The members that a value gives. What counts as switched off gives none, and what is no object
has to list pairs of a key and a value. -/
def toMembers (value : Json) : Except Misfit (List (Text × Json)) :=
  if !value.isOn then .ok []
  else
    match value with
    | .object members => .ok members
    | value => do
      let pairs ← (← value.elements).mapM toPair
      return (pairs.foldl insertPair []).map fun (key, value) => (key.keyText, value)

end Handheld.Json
