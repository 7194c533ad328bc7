import Handheld.Cpu.Snapshot
import Handheld.Proofs.Console.Comparison
import Handheld.Proofs.Console.Refusal

/-! What a captured state leaves out of the processor.
The processor tells changes in its registers and latches by itself. Differences between captured
states tell the same changes, but for one latch that captured states do not have.
-/

namespace Handheld

/-- How differences between captured states tell a change in a register or latch. -/
def Cpu.Change.told (change : Change Int) : Console.Difference :=
  if change.name ∈ ["ime", "ei_pending", "halted", "stopped"] then
    ⟨change.name, .switch (change.before ≠ 0), .switch (change.after ≠ 0)⟩
  else ⟨"registers." ++ change.name.toLower, .number change.before, .number change.after⟩

namespace Console

open Cpu (Change RegisterName Snapshot Strays)

/-- The processor's own account of its registers and latches. -/
def snapshot (console : Console) : Snapshot :=
  Snapshot.ofCore console.core

/-- Whatever the processor itself tells is told of the captured states too, but for the latch that
makes it read a byte twice. Of that, nothing is told.
-/
structure Covers (c d : Console) : Prop where
  told
    : ∀ change ∈ c.snapshot.diff d.snapshot, change.name ≠ "halt_bug" →
        change.told ∈ (c.capture.diff d.capture).cpu
  silent
    : (c.capture.diff d.capture).cpu = [] →
        c.snapshot.diff d.snapshot
          = if c.cpu.haltBug = d.cpu.haltBug then []
            else [⟨"halt_bug", c.cpu.haltBug.toNat, d.cpu.haltBug.toNat⟩]

-----------------------------------------------------------------------------------------
-- Registers
-----------------------------------------------------------------------------------------

/-- How the flags were set is not captured, so nothing is left out of two captured processors. -/
theorem capture_accountsFor (c d : Console)
    : AccountsFor CpuState.roster c.capture.cpu d.capture.cpu (c.capture.diff d.capture).cpu :=
  CpuState.accountsFor rfl

variable {c d : Console}

/-- A change of a register is one of its content. -/
theorem mem_register_changes {change : Change Int}
    : change ∈ Cpu.changes (· = ·) c.snapshot.registerFields d.snapshot.registerFields
        ↔ ∃ name ∈ Strays.names, c.cpu.registers.read name ≠ d.cpu.registers.read name
            ∧ change = ⟨name.text, c.cpu.registers.read name, d.cpu.registers.read name⟩ := by
  have named (console : Console)
      : console.snapshot.registerFields
        = Strays.names.map fun name => (name.text, console.cpu.registers.read name) := rfl
  rw [Cpu.changes, named, named, List.zip_map', List.filterMap_map, List.mem_filterMap]
  simp [eq_comm]

/-- The name of a register in capitals is not that of a latch, and is read back. -/
theorem toUpper_text
    : ∀ name ∈ Strays.names,
        name.text.toUpper ∉ ["ime", "ei_pending", "halted", "stopped"]
          ∧ name.text.toUpper.toLower = name.text := by
  decide +kernel

theorem mem_roster {name : RegisterName} (listed : name ∈ Strays.names)
    : .plain ("registers." ++ name.text) (fun cpu => .number (cpu.registers.read name))
        ∈ CpuState.roster := by
  have named
      : CpuState.contents.take 10
        = Cpu.alphabetical.map fun name =>
            ("registers." ++ name.text, fun cpu => .number (cpu.registers.read name)) := rfl
  have among
      : ("registers." ++ name.text, fun cpu => .number (cpu.registers.read name))
        ∈ CpuState.contents.take 10 := by
    rw [named]
    exact List.mem_map.mpr ⟨name, Cpu.names_perm.subset listed, rfl⟩
  exact List.mem_map.mpr ⟨_, List.mem_of_mem_take among, rfl⟩

/-- Nothing that is read from a register depends on how the flags were set. -/
theorem read_settled {name : RegisterName} (listed : name ∈ Strays.names) (r : Cpu.Registers)
    : r.settled.read name = r.read name := by
  simp only [Strays.names, List.mem_cons, List.not_mem_nil, or_false] at listed
  rcases listed with rfl | rfl | rfl | rfl | rfl | rfl | rfl | rfl | rfl | rfl <;> rfl

theorem register_told {name : RegisterName} (listed : name ∈ Strays.names)
    (differs : c.cpu.registers.read name ≠ d.cpu.registers.read name)
    : (Change.capital
          ⟨name.text, c.cpu.registers.read name, d.cpu.registers.read name⟩).told
        ∈ (c.capture.diff d.capture).cpu := by
  have content (console : Console)
      : console.capture.cpu.registers.read name = console.cpu.registers.read name :=
    read_settled listed console.cpu.registers
  have told := (capture_accountsFor c d).mem (mem_roster listed) (by simpa [content] using differs)
  obtain ⟨capital, small⟩ := toUpper_text name listed
  rw [content, content] at told
  rw [Change.told, Change.capital, if_neg capital, small]
  exact told

-----------------------------------------------------------------------------------------
-- Latches
-----------------------------------------------------------------------------------------

theorem changes_cons (name other : String) (old new : Int) (before after : List (String × Int))
    : Cpu.changes (· = ·) ((name, old) :: before) ((other, new) :: after)
      = if old = new then Cpu.changes (· = ·) before after
        else ⟨name, old, new⟩ :: Cpu.changes (· = ·) before after := by
  by_cases same : old = new <;> simp [Cpu.changes, same]

theorem eq_or_mem_of_mem_changes {name other : String} {old new : Int} {before after : List (String × Int)}
    {change : Change Int}
    (changed : change ∈ Cpu.changes (· = ·) ((name, old) :: before) ((other, new) :: after))
    : old ≠ new ∧ change = ⟨name, old, new⟩ ∨ change ∈ Cpu.changes (· = ·) before after := by
  rw [changes_cons] at changed
  split at changed
  case isTrue same => exact .inr changed
  case isFalse differs =>
      rcases List.mem_cons.mp changed with here | later
      · exact .inl ⟨differs, here⟩
      · exact .inr later

theorem latch_told {name : String} (latch : CpuState → Bool)
    (listed : .plain name (fun cpu => .switch (latch cpu)) ∈ CpuState.roster)
    (named : name ∈ ["ime", "ei_pending", "halted", "stopped"])
    (differs : ((latch c.capture.cpu).toNat : Int) ≠ (latch d.capture.cpu).toNat)
    : Change.told ⟨name, (latch c.capture.cpu).toNat, (latch d.capture.cpu).toNat⟩
        ∈ (c.capture.diff d.capture).cpu := by
  have other : Content.switch (latch c.capture.cpu) ≠ .switch (latch d.capture.cpu) :=
    fun same => differs (toNat_natCast_inj.mpr (Content.switch.inj same))
  have told := (capture_accountsFor c d).mem listed other
  have shown (on : Bool) : decide ((on.toNat : Int) ≠ 0) = on := by cases on <;> rfl
  rw [Change.told, if_pos named, shown, shown]
  exact told

/-- A change of a latch is told, unless it is the one that captured states leave out. -/
theorem latch_changes_told {change : Change Int}
    (changed : change ∈ Cpu.changes (· = ·) c.snapshot.latchFields d.snapshot.latchFields)
    (other : change.name ≠ "halt_bug")
    : change.told ∈ (c.capture.diff d.capture).cpu := by
  rw [Snapshot.latchFields, Snapshot.latchFields] at changed
  rcases eq_or_mem_of_mem_changes changed with ⟨differs, rfl⟩ | changed
  · exact latch_told CpuState.ime
      (by simp [CpuState.roster, CpuState.contents, Field.plains]) (by decide) differs
  rcases eq_or_mem_of_mem_changes changed with ⟨differs, rfl⟩ | changed
  · exact latch_told CpuState.eiPending
      (by simp [CpuState.roster, CpuState.contents, Field.plains]) (by decide) differs
  rcases eq_or_mem_of_mem_changes changed with ⟨differs, rfl⟩ | changed
  · exact latch_told CpuState.halted
      (by simp [CpuState.roster, CpuState.contents, Field.plains]) (by decide) differs
  rcases eq_or_mem_of_mem_changes changed with ⟨differs, rfl⟩ | changed
  · exact latch_told CpuState.stopped
      (by simp [CpuState.roster, CpuState.contents, Field.plains]) (by decide) differs
  rcases eq_or_mem_of_mem_changes changed with ⟨_, rfl⟩ | changed
  · exact absurd rfl other
  · cases changed

-----------------------------------------------------------------------------------------
-- Registers and latches
-----------------------------------------------------------------------------------------

theorem changes_self (fields : List (String × Int)) : Cpu.changes (· = ·) fields fields = [] := by
  induction fields with
  | nil => rfl
  | cons first rest ih => rw [changes_cons, if_pos rfl, ih]

/-- Processors that are captured alike can differ in one latch only. -/
theorem snapshot_diff_of_capture_eq (same : c.capture.cpu = d.capture.cpu)
    : c.snapshot.diff d.snapshot
      = if c.cpu.haltBug = d.cpu.haltBug then []
        else [⟨"halt_bug", c.cpu.haltBug.toNat, d.cpu.haltBug.toNat⟩] := by
  have registers : c.snapshot.registerFields = d.snapshot.registerFields :=
    congrArg (fun cpu : CpuState => Strays.names.map fun name : RegisterName =>
      (name.text, cpu.registers.read name)) same
  have ime : c.snapshot.ime = d.snapshot.ime := congrArg CpuState.ime same
  have eiPending : c.snapshot.eiPending = d.snapshot.eiPending := congrArg CpuState.eiPending same
  have halted : c.snapshot.halted = d.snapshot.halted := congrArg CpuState.halted same
  have stopped : c.snapshot.stopped = d.snapshot.stopped := congrArg CpuState.stopped same
  have haltBug (console : Console) : console.snapshot.haltBug = console.cpu.haltBug := rfl
  rw [Snapshot.diff, registers, changes_self, List.map_nil, List.nil_append]
  simp only [Snapshot.latchFields, ime, eiPending, halted, stopped, haltBug, changes_cons, if_true,
    toNat_natCast_inj, changes_self]

/-- What is told of two captured states covers what the processor tells by itself. -/
theorem capture_covers (c d : Console) : Covers c d := by
  constructor
  case told =>
      intro change changed other
      rcases List.mem_append.mp changed with register | latch
      · obtain ⟨raw, raw_changed, rfl⟩ := List.mem_map.mp register
        obtain ⟨name, listed, differs, rfl⟩ := mem_register_changes.mp raw_changed
        exact register_told listed differs
      · exact latch_changes_told latch other
  case silent =>
      intro silent
      exact snapshot_diff_of_capture_eq ((capture_accountsFor c d).nothing.mp silent)

/-- Two consoles are told to have the same processor, though one of them reads its next byte twice.
-/
theorem capture_misses_haltBug
    : ¬∀ c d : Console,
        (c.capture.diff d.capture).cpu = [] → c.snapshot.diff d.snapshot = [] := by
  intro always
  let caught : Console := blank.onCpu fun cpu => { cpu with haltBug := true }
  have silent : (blank.capture.diff caught.capture).cpu = [] :=
    (capture_accountsFor blank caught).nothing.mpr rfl
  have found : blank.snapshot.diff caught.snapshot = [⟨"halt_bug", 0, 1⟩] :=
    snapshot_diff_of_capture_eq rfl
  rw [always blank caught silent] at found
  cases found

end Console

end Handheld
