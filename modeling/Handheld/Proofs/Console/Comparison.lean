import Handheld.Report.Console
import Mathlib.Tactic.ByContra

/-! What the differences between two captured states tell.
They name every field that differs once and no other field, so states without differences are
equal.
-/

namespace Handheld

namespace Console

-----------------------------------------------------------------------------------------
-- What should be told
-----------------------------------------------------------------------------------------

/-- A field of a state. Rows of bytes are not told in full. -/
inductive Field (σ : Type)
  | plain (name : String) (content : σ → Content)
  | row (name : String) (bytes : σ → Bytes)

/-- At how many places two rows of bytes differ, as far as both reach. -/
def distance (before after : Bytes) : Nat :=
  ((List.range (min before.size after.size)).filter fun place =>
    before[place]? ≠ after[place]?).length

namespace Field

variable {σ : Type}

def name : Field σ → String
  | .plain name _ | .row name _ => name

/-- A field is told if it differs, a plain one with its contents and a row with its distance. -/
def tell (before after : σ) : Field σ → List Difference
  | .plain name content =>
    if content before = content after then [] else [⟨name, content before, content after⟩]
  | .row name bytes =>
    if bytes before = bytes after then []
    else
      [⟨name, .note "<bytes>",
        .note ("<" ++ toString (distance (bytes before) (bytes after)) ++ " bytes changed>")⟩]

/-- Fields that are told in full. -/
def plains (fields : List (String × (σ → Content))) : List (Field σ) :=
  fields.map fun (name, content) => .plain name content

end Field

/-- What is told of the processor in full. -/
def CpuState.contents : List (String × (CpuState → Content)) :=
  [("registers.a", fun cpu => .number cpu.registers.a),
    ("registers.b", fun cpu => .number cpu.registers.b),
    ("registers.c", fun cpu => .number cpu.registers.c),
    ("registers.d", fun cpu => .number cpu.registers.d),
    ("registers.e", fun cpu => .number cpu.registers.e),
    ("registers.f", fun cpu => .number cpu.registers.f),
    ("registers.h", fun cpu => .number cpu.registers.h),
    ("registers.l", fun cpu => .number cpu.registers.l),
    ("registers.pc", fun cpu => .number cpu.registers.pc),
    ("registers.sp", fun cpu => .number cpu.registers.sp),
    ("flags.C", fun cpu => .number cpu.registers.flags.c.toNat),
    ("flags.H", fun cpu => .number cpu.registers.flags.h.toNat),
    ("flags.N", fun cpu => .number cpu.registers.flags.n.toNat),
    ("flags.Z", fun cpu => .number cpu.registers.flags.z.toNat),
    ("ime", fun cpu => .switch cpu.ime),
    ("ei_pending", fun cpu => .switch cpu.eiPending),
    ("halted", fun cpu => .switch cpu.halted),
    ("stopped", fun cpu => .switch cpu.stopped),
    ("cycles", fun cpu => .number cpu.cycles),
    ("instruction_count", fun cpu => .number cpu.instructionCount)]

/-- What is told of the interrupt controller in full. -/
def InterruptState.contents : List (String × (InterruptState → Content)) :=
  [("ie", fun interrupts => .number interrupts.enable),
    ("if_", fun interrupts => .number interrupts.requests),
    ("ime", fun interrupts => .switch interrupts.ime)]

/-- What is told of the timer in full. -/
def TimerState.contents : List (String × (TimerState → Content)) :=
  [("divider", fun timer => .number timer.divider),
    ("tima", fun timer => .number timer.tima),
    ("tma", fun timer => .number timer.tma),
    ("tac", fun timer => .number timer.tac)]

/-- What is told of the cartridge in full. -/
def CartridgeState.contents : List (String × (CartridgeState → Content)) :=
  [("rom_bank", fun cartridge => .number cartridge.romBank),
    ("ram_bank", fun cartridge => .number cartridge.ramBank),
    ("ram_enabled", fun cartridge => .switch cartridge.ramEnabled)]

/-- The fields of the processor. -/
def CpuState.roster : List (Field CpuState) :=
  Field.plains contents

/-- The fields of the interrupt controller. -/
def InterruptState.roster : List (Field InterruptState) :=
  Field.plains contents

/-- The fields of the timer. -/
def TimerState.roster : List (Field TimerState) :=
  Field.plains contents

/-- The memories of the board. -/
def MemoryState.roster : List (Field MemoryState) :=
  [.row "wram" wram, .row "hram" hram]

/-- The fields of the cartridge. -/
def CartridgeState.roster : List (Field CartridgeState) :=
  Field.plains contents ++ [.row "external_ram" externalRam]

/-- Each field is told as it should be, nothing else is, and a row that has kept its size is told
just if some byte has changed.
-/
structure AccountsFor {σ : Type} (fields : List (Field σ)) (before after : σ)
    (told : List Difference) : Prop where
  each : ∀ field ∈ fields, told.filter (·.name = field.name) = field.tell before after
  only : ∀ difference ∈ told, ∃ field ∈ fields, difference ∈ field.tell before after
  rows {name : String} {bytes : σ → Bytes} (listed : .row name bytes ∈ fields)
    (size : (bytes before).size = (bytes after).size)
    : (∃ difference ∈ told, difference.name = name) ↔ 0 < distance (bytes before) (bytes after)
  nothing : told = [] ↔ before = after

/-- The differences between two states tell all of their fields, and whether the serial link has
changed. There are none just if the states are equal.
-/
structure Compared (before after : State) (told : Differences) : Prop where
  cpu : AccountsFor CpuState.roster before.cpu after.cpu told.cpu
  interrupts : AccountsFor InterruptState.roster before.interrupts after.interrupts told.interrupts
  timer : AccountsFor TimerState.roster before.timer after.timer told.timer
  memory : AccountsFor MemoryState.roster before.memory after.memory told.memory
  cartridge : AccountsFor CartridgeState.roster before.cartridge after.cartridge told.cartridge
  serial : told.serial = true ↔ before.serial ≠ after.serial
  isEmpty : told.isEmpty = true ↔ before = after

-----------------------------------------------------------------------------------------
-- Rows of bytes
-----------------------------------------------------------------------------------------

/-- Changes are counted at the places that both rows have. -/
theorem length_filter_zip {α : Type} [DecidableEq α] (before after : List α)
    : ((before.zip after).filter fun (old, new) => old ≠ new).length
      = ((List.range (min before.length after.length)).filter fun place =>
          before[place]? ≠ after[place]?).length := by
  induction before generalizing after with
  | nil => simp
  | cons old before ih =>
      cases after with
      | nil => simp
      | cons new after =>
          by_cases same : old = new <;>
            simpa [same, List.range_succ_eq_map, Nat.succ_min_succ, List.filter_map,
              Function.comp_def] using ih after

theorem countChanges_eq (before after : Bytes)
    : countChanges before after = distance before after := by
  have counted := length_filter_zip before.toList after.toList
  simpa [countChanges, distance] using counted

/-- Rows of one size differ somewhere just if they are not equal. -/
theorem distance_pos {before after : Bytes} (size : before.size = after.size)
    : 0 < distance before after ↔ before ≠ after := by
  rw [distance, List.length_pos_iff_exists_mem]
  constructor
  · rintro ⟨place, differs⟩ rfl
    simp at differs
  · intro differs
    by_contra none_
    refine differs (Array.ext size fun place inside within => ?_)
    by_contra other
    have reached : place < min before.size after.size := by omega
    exact none_ ⟨place, List.mem_filter.mpr
      ⟨List.mem_range.mpr reached, by simp [inside, within, other]⟩⟩

-----------------------------------------------------------------------------------------
-- Fields told one after the other
-----------------------------------------------------------------------------------------

namespace Field

variable {σ : Type} {before after : σ}

@[simp]
theorem tell_plain_eq_nil {name : String} {content : σ → Content}
    : tell before after (.plain name content) = [] ↔ content before = content after := by
  simp [tell]

@[simp]
theorem tell_row_eq_nil {name : String} {bytes : σ → Bytes}
    : tell before after (.row name bytes) = [] ↔ bytes before = bytes after := by
  simp [tell]

theorem name_of_mem_tell {field : Field σ} {difference : Difference}
    (told : difference ∈ field.tell before after)
    : difference.name = field.name := by
  cases field with
  | plain name content | row name bytes =>
      rw [tell] at told
      split at told
      · cases told
      · rw [List.mem_singleton.mp told]
        rfl

theorem filter_tell {field : Field σ} {sought : String} (own : field.name = sought)
    : (field.tell before after).filter (·.name = sought) = field.tell before after := by
  refine List.filter_eq_self.mpr fun difference told => ?_
  simp [name_of_mem_tell told, own]

theorem filter_tell_other {field : Field σ} {sought : String} (other : field.name ≠ sought)
    : (field.tell before after).filter (·.name = sought) = [] := by
  refine List.filter_eq_nil_iff.mpr fun difference told => ?_
  simp [name_of_mem_tell told, other]

/-- Among fields of other names, nothing is told under a name. -/
theorem filter_flatMap_tell_other {fields : List (Field σ)} {sought : String}
    (other : sought ∉ fields.map name)
    : (fields.flatMap (tell before after)).filter (·.name = sought) = [] := by
  rw [List.filter_flatMap, List.flatMap_eq_nil_iff]
  intro field listed
  refine filter_tell_other fun own => other ?_
  exact own ▸ List.mem_map_of_mem listed

/-- Among fields of different names, each is told under its own name only. -/
theorem filter_flatMap_tell {fields : List (Field σ)} (distinct : (fields.map name).Nodup)
    {field : Field σ} (listed : field ∈ fields)
    : (fields.flatMap (tell before after)).filter (·.name = field.name)
      = field.tell before after := by
  induction fields with
  | nil => cases listed
  | cons first rest ih =>
      obtain ⟨apart, distinct⟩ := List.nodup_cons.mp distinct
      rw [List.flatMap_cons, List.filter_append]
      rcases List.mem_cons.mp listed with rfl | listed
      · rw [filter_tell rfl, filter_flatMap_tell_other apart, List.append_nil]
      · have other : first.name ≠ field.name := fun same =>
          apart (same ▸ List.mem_map_of_mem listed)
        rw [filter_tell_other other, ih distinct listed, List.nil_append]

end Field

/-- What is told of fields of different names is what should be, if they make up the states. -/
theorem AccountsFor.of_flatMap {σ : Type} {fields : List (Field σ)} {before after : σ}
    (distinct : (fields.map Field.name).Nodup)
    (whole : (∀ field ∈ fields, field.tell before after = []) ↔ before = after)
    : AccountsFor fields before after (fields.flatMap (Field.tell before after)) where
  each _ listed := Field.filter_flatMap_tell distinct listed
  only _ told := List.mem_flatMap.mp told
  rows {name bytes} listed size := by
    have each : (fields.flatMap (Field.tell before after)).filter (·.name = name)
        = Field.tell before after (.row name bytes) :=
      Field.filter_flatMap_tell distinct listed
    have named
        : (∃ difference ∈ fields.flatMap (Field.tell before after), difference.name = name)
          ↔ (fields.flatMap (Field.tell before after)).filter (·.name = name) ≠ [] := by
      constructor
      · rintro ⟨difference, told, own⟩
        exact List.ne_nil_of_mem (List.mem_filter.mpr ⟨told, decide_eq_true own⟩)
      · intro some_
        obtain ⟨difference, kept⟩ := List.exists_mem_of_ne_nil _ some_
        obtain ⟨told, own⟩ := List.mem_filter.mp kept
        exact ⟨difference, told, of_decide_eq_true own⟩
    rw [named, each, distance_pos size, Field.tell]
    simp
  nothing := by rw [List.flatMap_eq_nil_iff, whole]

/-- A plain field that differs is told with both of its contents. -/
theorem AccountsFor.mem {σ : Type} {fields : List (Field σ)} {before after : σ}
    {told : List Difference} (accounts : AccountsFor fields before after told) {name : String}
    {content : σ → Content} (listed : .plain name content ∈ fields)
    (differs : content before ≠ content after)
    : ⟨name, content before, content after⟩ ∈ told := by
  have each := accounts.each _ listed
  rw [Field.tell, if_neg differs] at each
  exact (List.mem_filter.mp (each ▸ List.mem_singleton_self _)).1

-----------------------------------------------------------------------------------------
-- The sections of a state
-----------------------------------------------------------------------------------------

section

variable {σ : Type} (before after : σ)

theorem compareFields_plains (named : List (String × (σ → Content)))
    : compareFields (named.map fun (name, content) => (name, content before))
          (named.map fun (name, content) => (name, content after))
      = (Field.plains named).flatMap (Field.tell before after) := by
  induction named with
  | nil => rfl
  | cons first rest ih =>
      rw [Field.plains, List.map_cons, List.map_cons, List.map_cons, List.flatMap_cons,
        ← Field.plains, ← ih, Field.tell]
      by_cases same : first.2 before = first.2 after <;> simp [compareFields, same]

/-- What is told of fields in full is what should be, if they make up the states. -/
theorem AccountsFor.of_contents {contents : List (String × (σ → Content))}
    (distinct : ((Field.plains contents).map Field.name).Nodup)
    (whole
      : (∀ field ∈ Field.plains contents, field.tell before after = []) ↔ before = after)
    : AccountsFor (Field.plains contents) before after
        (compareFields (contents.map fun (name, content) => (name, content before))
          (contents.map fun (name, content) => (name, content after))) := by
  rw [compareFields_plains]
  exact .of_flatMap distinct whole

theorem compareBytes_row (name : String) (bytes : σ → Bytes)
    : compareBytes name (bytes before) (bytes after)
      = Field.tell before after (.row name bytes) := by
  rw [compareBytes, countChanges_eq, Field.tell]

end

theorem toNat_natCast_inj {on other : Bool} : (on.toNat : Int) = other.toNat ↔ on = other := by
  cases on <;> cases other <;> decide

/-- Processors that are told alike are equal, if both have the same record of how the flags were
set, which is not told.
-/
theorem CpuState.silent_iff {before after : CpuState}
    (settled : before.registers.flagwise = after.registers.flagwise)
    : (∀ field ∈ roster, field.tell before after = []) ↔ before = after := by
  constructor
  · intro silent
    obtain ⟨⟨_, ⟨_, _, _, _⟩, _, _, _, _, _, _, _, _, _⟩, _, _, _, _, _, _⟩ := before
    obtain ⟨⟨_, ⟨_, _, _, _⟩, _, _, _, _, _, _, _, _, _⟩, _, _, _, _, _, _⟩ := after
    simp only [roster, contents, Field.plains, List.map_cons, List.map_nil, List.forall_mem_cons,
      Field.tell_plain_eq_nil, Content.number.injEq, Content.switch.injEq, toNat_natCast_inj]
      at silent settled
    obtain ⟨rfl, rfl, rfl, rfl, rfl, -, rfl, rfl, rfl, rfl, rfl, rfl, rfl, rfl, rfl, rfl, rfl, rfl,
      rfl, rfl, -⟩ := silent
    rw [settled]
  · rintro rfl
    simp [roster, contents, Field.plains]

theorem CpuState.accountsFor {before after : CpuState}
    (settled : before.registers.flagwise = after.registers.flagwise)
    : AccountsFor roster before after (compareFields before.fields after.fields) :=
  .of_contents before after (by decide) (silent_iff settled)

theorem InterruptState.accountsFor (before after : InterruptState)
    : AccountsFor roster before after (compareFields before.fields after.fields) := by
  refine .of_contents before after (by decide) ?_
  cases before
  cases after
  simp [contents, Field.plains]

theorem TimerState.accountsFor (before after : TimerState)
    : AccountsFor roster before after (compareFields before.fields after.fields) := by
  refine .of_contents before after (by decide) ?_
  cases before
  cases after
  simp [contents, Field.plains]

theorem MemoryState.accountsFor (before after : MemoryState)
    : AccountsFor roster before after
        (compareBytes "wram" before.wram after.wram
          ++ compareBytes "hram" before.hram after.hram) := by
  have told
      : compareBytes "wram" before.wram after.wram ++ compareBytes "hram" before.hram after.hram
        = roster.flatMap (Field.tell before after) := by
    rw [compareBytes_row before after "wram" wram, compareBytes_row before after "hram" hram]
    simp [roster]
  rw [told]
  refine .of_flatMap (by decide) ?_
  cases before
  cases after
  simp [roster]

theorem CartridgeState.accountsFor (before after : CartridgeState)
    : AccountsFor roster before after
        (compareFields before.fields after.fields
          ++ compareBytes "external_ram" before.externalRam after.externalRam) := by
  have told
      : compareFields before.fields after.fields
          ++ compareBytes "external_ram" before.externalRam after.externalRam
        = roster.flatMap (Field.tell before after) := by
    rw [roster, List.flatMap_append, ← compareFields_plains, List.flatMap_singleton,
      compareBytes_row before after "external_ram" externalRam]
    rfl
  rw [told]
  refine .of_flatMap (by decide) ?_
  cases before
  cases after
  simp [roster, contents, Field.plains]

-----------------------------------------------------------------------------------------
-- Captured states
-----------------------------------------------------------------------------------------

/-- The differences between two states tell all there is. -/
theorem State.diff_compared {before after : State}
    (settled : before.cpu.registers.flagwise = after.cpu.registers.flagwise)
    : Compared before after (before.diff after) := by
  have cpu := CpuState.accountsFor settled
  have interrupts := InterruptState.accountsFor before.interrupts after.interrupts
  have timer := TimerState.accountsFor before.timer after.timer
  have memory := MemoryState.accountsFor before.memory after.memory
  have cartridge := CartridgeState.accountsFor before.cartridge after.cartridge
  have serial : (before.diff after).serial = true ↔ before.serial ≠ after.serial :=
    decide_eq_true_iff
  refine ⟨cpu, interrupts, timer, memory, cartridge, serial, ?_⟩
  have sections : before = after ↔ before.cpu = after.cpu ∧ before.interrupts = after.interrupts
      ∧ before.timer = after.timer ∧ before.memory = after.memory
      ∧ before.cartridge = after.cartridge ∧ before.serial = after.serial := by
    cases before
    cases after
    simp
  rw [sections, ← cpu.nothing, ← interrupts.nothing, ← timer.nothing, ← memory.nothing,
    ← cartridge.nothing]
  simp [Differences.isEmpty, State.diff, and_assoc]

/-- What is told of two consoles names all that has changed between them, once and with both of its
contents.
-/
theorem capture_compared (c d : Console)
    : Compared c.capture d.capture (c.capture.diff d.capture) :=
  State.diff_compared rfl

end Console

-----------------------------------------------------------------------------------------
-- What a host is told
-----------------------------------------------------------------------------------------

/-- The registers in alphabetical order. -/
def Cpu.alphabetical : List Cpu.RegisterName :=
  [.byte .a, .byte .b, .byte .c, .byte .d, .byte .e, .flags, .byte .h, .byte .l, .pc, .word .sp]

theorem Cpu.names_perm : Cpu.Strays.names.Perm Cpu.alphabetical := by decide

theorem Console.registerFields_eq (registers : Cpu.Registers)
    : registerFields registers
      = Cpu.alphabetical.map fun name =>
          ("registers." ++ name.text, .number (registers.read name)) := rfl

namespace Capture

open Cpu (Change RegisterName Registers Strays alphabetical)

/-- How a register has changed, if it has. -/
def registerChange? (before after : Registers) (name : RegisterName) : Option (Change Json) :=
  if (Json.int (before.read name)).same (.int (after.read name)) then none
  else some ⟨name.text, .int (before.read name), .int (after.read name)⟩

theorem registerChange?_name {before after : Registers} {name : RegisterName}
    {change : Change Json} (changed : registerChange? before after name = some change)
    : change.name = name.text := by
  rw [registerChange?] at changed
  split at changed
  · cases changed
  · rw [← Option.some.inj changed]

theorem text_injective
    : ∀ name ∈ alphabetical, ∀ other ∈ alphabetical, name.text = other.text → name = other := by
  decide

/-- Changes are sorted by name after they have been found, which comes to the same. -/
theorem registerChanges_eq (before after : Console.State)
    : registerChanges ⟨before, []⟩ ⟨after, []⟩
      = alphabetical.filterMap (registerChange? before.cpu.registers after.cpu.registers) := by
  have found
      : Cpu.changes Json.same (registerFields ⟨before, []⟩) (registerFields ⟨after, []⟩)
        = Strays.names.filterMap
            (registerChange? before.cpu.registers after.cpu.registers) := by
    rw [Cpu.changes, registerFields, registerFields, Strays.fields, Strays.fields, List.zip_map',
      List.filterMap_map]
    rfl
  rw [registerChanges, found]
  have sorted
      : (alphabetical.filterMap
            (registerChange? before.cpu.registers after.cpu.registers)).Pairwise
          fun a b => decide (a.name ≤ b.name) = true := by
    have names : alphabetical.Pairwise fun name other => name.text ≤ other.text := by decide
    refine names.filterMap _ fun name other ordered change changed another later => ?_
    rw [registerChange?_name changed, registerChange?_name later]
    exact decide_eq_true ordered
  refine List.Perm.eq_of_pairwise ?_ (List.pairwise_mergeSort ?_ ?_ _) sorted
    ((List.mergeSort_perm _ _).trans (Cpu.names_perm.filterMap _))
  · intro a b early late below above
    obtain ⟨name, heard, changed⟩ := List.mem_filterMap.mp (List.mem_mergeSort.mp early)
    obtain ⟨other, known, later⟩ := List.mem_filterMap.mp late
    have text : a.name = b.name :=
      String.le_antisymm (of_decide_eq_true below) (of_decide_eq_true above)
    rw [registerChange?_name changed, registerChange?_name later] at text
    obtain rfl := text_injective name (Cpu.names_perm.subset heard) other known text
    exact Option.some.inj (changed.symm.trans later)
  · intro a b c first second
    simp only [decide_eq_true_eq] at first second ⊢
    exact String.le_trans first second
  · intro a b
    simpa using String.le_total a.name b.name

end Capture

namespace Report

/-- How a difference is told. -/
def difference (told : Console.Difference) : Json :=
  .array [.string told.name, content told.before, content told.after]

theorem map_registerChanges (before after : Console.State)
    : (Capture.registerChanges ⟨before, []⟩ ⟨after, []⟩).map (fun change =>
          Json.array [.string ("registers." ++ change.name), change.before, change.after])
      = (Console.compareFields (Console.registerFields before.cpu.registers)
          (Console.registerFields after.cpu.registers)).map difference := by
  rw [Capture.registerChanges_eq, Console.compareFields, Console.registerFields_eq,
    Console.registerFields_eq, List.zip_map', List.filterMap_map, List.map_filterMap,
    List.map_filterMap]
  refine congrArg (List.filterMap · _) (funext fun name => ?_)
  have same : (Json.int (before.cpu.registers.read name)).same
      (.int (after.cpu.registers.read name))
        = decide (before.cpu.registers.read name = after.cpu.registers.read name) := by
    rw [Json.int, Json.int, Json.same, Number.same]
  have joined : Text.ofString ("registers." ++ name.text)
      = Text.ofString "registers." ++ Text.ofString name.text := by
    rw [Text.ofString, Text.ofChars, String.toList_append, List.map_append]
    rfl
  rw [Function.comp_apply, Capture.registerChange?, same]
  by_cases equal : before.cpu.registers.read name = after.cpu.registers.read name
  · simp [equal]
  · simp [equal, difference, content, joined]

theorem compareFields_append {first last newFirst newLast : List (String × Console.Content)}
    (length : first.length = newFirst.length)
    : Console.compareFields (first ++ last) (newFirst ++ newLast)
      = Console.compareFields first newFirst ++ Console.compareFields last newLast := by
  rw [Console.compareFields, List.zip_append length, List.filterMap_append]
  rfl

/-- What a host is told of two consoles without strays in their registers are the differences
between their states.
-/
theorem comparedCaptures_eq (before after : Console.State)
    : comparedCaptures ⟨before, []⟩ ⟨after, []⟩ = differences [] (before.diff after) := by
  have told := map_registerChanges before after
  have cpu : (before.diff after).cpu
      = Console.compareFields (Console.registerFields before.cpu.registers)
            (Console.registerFields after.cpu.registers)
          ++ Console.compareFields before.cpu.otherFields after.cpu.otherFields :=
    compareFields_append rfl
  have none_ : (Capture.registerChanges ⟨before, []⟩ ⟨after, []⟩).isEmpty
      = (Console.compareFields (Console.registerFields before.cpu.registers)
          (Console.registerFields after.cpu.registers)).isEmpty := by
    have empty := congrArg List.isEmpty told
    rwa [List.isEmpty_map, List.isEmpty_map] at empty
  have whole : (before.diff after).cpu.isEmpty
      = ((Console.compareFields (Console.registerFields before.cpu.registers)
            (Console.registerFields after.cpu.registers)).isEmpty
          && (Console.compareFields before.cpu.otherFields after.cpu.otherFields).isEmpty) := by
    rw [cpu]
    cases Console.compareFields (Console.registerFields before.cpu.registers)
      (Console.registerFields after.cpu.registers) <;> rfl
  rw [comparedCaptures, differences, told, none_, differences, cpu]
  simp [Capture.otherDifferences, Console.Differences.isEmpty, whole, difference, Bool.and_assoc]

end Report

end Handheld
