import Handheld.Proofs.Console.Refusal

/-! Components that refuse what they should take over.
Some of them look at all they are given before they change. Others change one part after the other,
and keep what they have taken over when a later part is refused.
-/

namespace Handheld

open Attempt (Staged)
open Stage (Apart)

-----------------------------------------------------------------------------------------
-- Switching the logs on
-----------------------------------------------------------------------------------------

namespace Memory.AccessLog

/-- The stages in which the logs are switched on: the switch, and then the limit of both logs. -/
def enableStages (limit : Option Int) : List (Stage AccessLog) := [
  .always fun log => { log with enabled := true },
  { read := fun _ => (limit.mapM checkLimit).mapError .log
    put := fun size log =>
      { log with reads := log.reads.withLimit size, writes := log.writes.withLimit size } }]

theorem enable_staged (limit : Option Int) : (enable limit).Staged (enableStages limit) := by
  refine .changeThen fun log => ?_
  cases limit.mapM checkLimit <;> rfl

theorem enableStages_apart (limit : Option Int) : Apart id (enableStages limit) := by
  refine .cons (·.enabled) (fun log _ _ => congrArg fun enabled => { log with enabled }) ?_ <|
    .cons (fun log => (log.reads, log.writes))
      (fun log _ _ => congrArg fun rings : Ring Access × Ring Access =>
        { log with reads := rings.1, writes := rings.2 }) ?_ .nil
  all_goals repeat' first | exact .nil | refine .cons (fun _ _ => rfl) ?_

end Memory.AccessLog

-----------------------------------------------------------------------------------------
-- Calls
-----------------------------------------------------------------------------------------

/-- The calls that make a component take something over. -/
inductive Call
  | enableLog (limit : Option Int)
  | restoreTimer (state : Json)
  | restoreInterrupts (state : Json)
  | restoreJoypad (state : Json)
  | restoreBanks (state : Json)
  | restoreRam (bytes : Bytes)
  | restoreWindow (size : Nat) (bytes : Bytes)

namespace Call

/-- What a call is made on. -/
abbrev Component : Call → Type
  | .enableLog _ => Memory.AccessLog
  | .restoreTimer _ => Timer
  | .restoreInterrupts _ => Interrupts
  | .restoreJoypad _ => Joypad
  | .restoreBanks _ | .restoreRam _ => Cartridge
  | .restoreWindow size _ => Window size

/-- What a call does. -/
def action : (call : Call) → Attempt call.Component Unit
  | .enableLog limit => Memory.AccessLog.enable limit
  | .restoreTimer state => Timer.restore state
  | .restoreInterrupts state => Interrupts.restore state
  | .restoreJoypad state => Joypad.restore state
  | .restoreBanks state => Cartridge.restoreBanks state
  | .restoreRam bytes => .replace (Cartridge.restoreRam bytes)
  | .restoreWindow _ bytes => .replace (Window.restore bytes)

/-- The stages of a call, each of which takes one part over. -/
def stages : (call : Call) → List (Stage call.Component)
  | .enableLog limit => Memory.AccessLog.enableStages limit
  | .restoreTimer state => Timer.stages.map (· state)
  | .restoreInterrupts state => Interrupts.stages.map (· state)
  | .restoreJoypad state => Joypad.stages.map (· state)
  | .restoreBanks state => Cartridge.bankStages.map (· state)
  | .restoreRam bytes => [.replacing (Cartridge.restoreRam bytes)]
  | .restoreWindow _ bytes => [.replacing (Window.restore bytes)]

/-- The bytes are counted before anything changes. -/
def isGuarded : Call → Bool
  | .restoreRam _ | .restoreWindow _ _ => true
  | _ => false

/-- A failed call has changed nothing just if every part before the one that was refused was in the
component already. A call that counts the bytes first has changed nothing at all.
-/
structure Leaves (call : Call) (before after : call.Component) (error : Error) : Prop where
  unchanged_iff
    : after = before
        ↔ ∃ done stage rest, call.stages = done ++ stage :: rest
          ∧ (∀ earlier ∈ done, earlier.run before = .ok before)
          ∧ stage.run before = .error error
  guarded : call.isGuarded → after = before

theorem staged (call : Call) : call.action.Staged call.stages := by
  cases call with
  | enableLog limit => exact Memory.AccessLog.enable_staged limit
  | restoreTimer state => exact Timer.restore_staged state
  | restoreInterrupts state => exact Interrupts.restore_staged state
  | restoreJoypad state => exact Joypad.restore_staged state
  | restoreBanks state => exact Cartridge.restoreBanks_staged state
  | restoreRam bytes | restoreWindow size bytes =>
      exact .replace fun _ => (congrFun Except.map_id _).symm

/-- No stage of a call touches what an earlier one has taken over. -/
theorem stages_apart (call : Call) : Apart id call.stages := by
  cases call with
  | enableLog limit => exact Memory.AccessLog.enableStages_apart limit
  | restoreTimer state => exact (Timer.stages_apart (.ok state)).of_after
  | restoreInterrupts state => exact (Interrupts.stages_apart (.ok state)).of_after
  | restoreJoypad state => exact (Joypad.stages_apart (.ok state)).of_after
  | restoreBanks state => exact (Cartridge.bankStages_apart (.ok state)).of_after
  | restoreRam bytes | restoreWindow size bytes =>
      exact .cons id (fun _ _ _ same => same) (List.forall_mem_nil _) .nil

/-- What a failed call leaves behind depends on the parts that it came to before it failed. -/
theorem failed_leaves {call : Call} {before after : call.Component} {error : Error}
    (failed : call.action.perform before = (.error error, after))
    : call.Leaves before after error := by
  rw [staged call before] at failed
  refine ⟨(stages_apart call).unchanged_iff failed, fun guarded => ?_⟩
  cases call with
  | restoreRam bytes | restoreWindow size bytes => exact Stage.runAll_singleton_error failed
  | _ => cases guarded

/-- Logs that refuse a limit are as they were just if they were on. -/
theorem enableLog_failed_iff {limit : Option Int} {before after : Memory.AccessLog} {error : Error}
    (failed : (Memory.AccessLog.enable limit).perform before = (.error error, after))
    : after = before ↔ before.enabled = true := by
  rw [Memory.AccessLog.enable_staged limit before] at failed
  have on : after = { before with enabled := true } := by
    have limits : Stage.runAll ((Memory.AccessLog.enableStages limit).tail)
        { before with enabled := true } = (.error error, after) := failed
    exact Stage.runAll_singleton_error limits
  rw [on]
  constructor
  · intro same
    exact (congrArg Memory.AccessLog.enabled same).symm
  · intro enabled
    cases before
    simp_all

/-- A cartridge without external memory refuses a byte of it and stays as it was. -/
theorem failed_leaves_ram
    : ∃ error after,
        (restoreRam #[0]).action.perform Cartridge.blank = (.error error, after)
          ∧ after = Cartridge.blank :=
  ⟨_, _, rfl, (@failed_leaves (.restoreRam #[0]) _ _ _ rfl).guarded rfl⟩

/-- Somewhere a call fails and leaves a component that has changed. -/
def Spoils (call : Call) : Prop :=
  ∃ before after error, call.action.perform before = (.error error, after) ∧ after ≠ before

/-- Five of the calls can leave something behind when they fail: logs that are on, a divider, a mask
of interrupts, a row of keys that is read, and external memory that is switched off.
-/
theorem failed_changes
    : (enableLog (some (-1))).Spoils
        ∧ (restoreTimer (.object [("divider", .int 1), ("tima", .null)])).Spoils
        ∧ (restoreInterrupts (.object [("ie", .int 1), ("if", .null)])).Spoils
        ∧ (restoreJoypad (.object [("select", .int 0x10), ("pressed", .array [.string "X"])])).Spoils
        ∧ (restoreBanks
            (.object [("ram_enabled", .bool false), ("rom_bank_register", .null)])).Spoils := by
  refine ⟨⟨Console.blank.memory.log, _, _, rfl, ?_⟩, ⟨{}, _, _, rfl, ?_⟩, ⟨{}, _, _, rfl, ?_⟩,
    ⟨{}, _, _, rfl, ?_⟩, ⟨.blank, _, _, rfl, ?_⟩⟩
  case refine_1 =>
      intro same
      cases congrArg Memory.AccessLog.enabled same
  case refine_2 =>
      intro same
      cases congrArg Timer.divider same
  case refine_3 =>
      intro same
      cases congrArg Interrupts.enable same
  case refine_4 =>
      intro same
      exact absurd (congrArg Joypad.buttonLine same) (by decide)
  case refine_5 =>
      intro same
      exact absurd (congrArg Cartridge.ramEnabled same) (by decide)

end Call

end Handheld
