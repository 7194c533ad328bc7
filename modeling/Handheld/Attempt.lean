import Handheld.Error

/-!
Actions that change a state and may fail on the way.
-/

namespace Handheld

/-- An action on a state of type `σ` that may fail part-way. What it did before it failed stays
done. -/
abbrev Attempt (σ α : Type) := ExceptT Error (StateM σ) α

namespace Attempt

variable {σ τ α : Type}

/-- Carries out an action. The state comes back whether or not the action fails. -/
def perform (action : Attempt σ α) (state : σ) : Except Error α × σ :=
  action.run.run state

/-- The result of reading a value, or the failure to read it. -/
def expect (reading : Except Misfit α) : Attempt σ α :=
  match reading with
  | .ok value => pure value
  | .error reason => throw (.misfit reason)

/-- An action given by what it does to a state. -/
def ofFunction (action : σ → Except Error α × σ) : Attempt σ α :=
  ExceptT.mk action

/-- Replaces the state, unless the replacement failed to come about. -/
def replace (change : σ → Except Error σ) : Attempt σ Unit := do
  match change (← get) with
  | .ok state => set state
  | .error error => throw error

/-- An action on a part of the state. -/
def on (part : σ → τ) (replace : τ → σ → σ) (action : Attempt τ α) : Attempt σ α :=
  ExceptT.mk fun state =>
    let (result, changed) := action.perform (part state)
    (result, replace changed state)

end Attempt

end Handheld
