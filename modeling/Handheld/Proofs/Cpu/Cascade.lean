import Handheld.Cpu.FlatRam
import Handheld.Proofs.Cpu.Frame
import Handheld.Proofs.Cpu.Range
import Mathlib.Data.Nat.Digits.Lemmas

/-! Numbers of many bytes, worked on byte by byte.
Between two bytes a program loads and stores what it likes. The carry flag outlasts that, and is all
that one byte hands to the next.
-/

namespace Handheld.Cpu

variable {μ τ α : Type} {bus : Bus μ}

-----------------------------------------------------------------------------------------
-- Instructions that leave the carry flag alone
-----------------------------------------------------------------------------------------

/-- Instructions whose bytes have been fetched, each with its immediate. -/
abbrev Script := List (Instruction × Int)

/-- The instruction leaves the carry flag alone, as loads and stores do. -/
def Instruction.sparesCarry : Instruction → Bool
  | .arithmetic .. | .rotate .. | .rlca | .rrca | .rla | .rra | .daa | .scf | .ccf | .addHl _
  | .addSpOffset | .hlFromSpOffset => false
  | .loadWord target | .pop target | .incWord target | .decWord target => target ≠ .af
  | _ => true

/-- All instructions leave the carry flag alone. -/
def Script.SparesCarry (script : Script) : Prop :=
  ∀ line ∈ script, line.1.sparesCarry = true

namespace Core

/-- The carry flag. -/
def carry (core : Core μ) : Bool :=
  core.cpu.registers.flags.c

/-- Carries out fetched instructions one after the other. -/
def enact (bus : Bus μ) (script : Script) (core : Core μ) : Core μ :=
  script.foldl (fun core (instruction, immediate) =>
    ((execute bus instruction immediate).run core).2) core

/-- To find an operand moves no register but `HL`. -/
theorem addressOf_registers (view : Registers → τ)
    (aside : ∀ r value, view (r.set16 .hl value) = view r) (immediate : Int) (pointer : Pointer)
    : Leaves (fun core => view core.cpu.registers) (addressOf (μ := μ) immediate pointer) := by
  cases pointer with
  | hlUp => exact fun core => aside core.cpu.registers _
  | hlDown => exact fun core => aside core.cpu.registers _
  | _ => exact fun _ => rfl

theorem readOperand_registers (view : Registers → τ)
    (aside : ∀ r value, view (r.set16 .hl value) = view r) (immediate : Int) (operand : Operand)
    : Leaves (fun core => view core.cpu.registers) (readOperand bus immediate operand) := by
  cases operand with
  | memory pointer => exact (addressOf_registers view aside immediate pointer).bind fun _ _ => rfl
  | _ => exact fun _ => rfl

theorem readOperand_carry (immediate : Int) (operand : Operand)
    : Leaves carry (readOperand bus immediate operand) :=
  readOperand_registers (fun r => r.flags.c) (fun _ _ => rfl) immediate operand

theorem onRegisters_carry {change : Registers → Registers}
    (spares : ∀ r, (change r).flags.c = r.flags.c)
    : Leaves carry (onRegisters (μ := μ) change) :=
  fun core => spares core.cpu.registers

theorem set8_flags (r : Registers) (register : Register8) (value : Int)
    : (r.set8 register value).flags = r.flags := by
  cases register <;> rfl

theorem set16_flags (r : Registers) {register : Register16} (plain : register ≠ .af) (value : Int)
    : (r.set16 register value).flags = r.flags := by
  cases register with
  | af => exact absurd rfl plain
  | _ => rfl

theorem writeOperand_carry (immediate : Int) (operand : Operand) (value : Int)
    : Leaves carry (writeOperand bus immediate operand value) := by
  cases operand with
  | register register => exact onRegisters_carry fun r => congrArg Flags.c (set8_flags r _ _)
  | memory pointer =>
      have found := addressOf_registers (μ := μ) (fun r => r.flags.c) (fun _ _ => rfl) immediate
        pointer
      exact found.bind fun _ _ => rfl
  | immediate => exact fun _ => rfl

/-- On any bus, the carry flag goes untouched through all other instructions. -/
theorem execute_carry {instruction : Instruction} (spares : instruction.sparesCarry = true)
    (immediate : Int)
    : Leaves carry (execute bus instruction immediate) := by
  -- Several instructions share one of three ways to work on registers or on an operand.
  have pair (target : Register16) (plain : decide (target ≠ .af) = true) (f : Registers → Int)
      : Leaves carry (onRegisters (μ := μ) fun r => r.set16 target (f r)) :=
    onRegisters_carry fun r => congrArg Flags.c (set16_flags r (of_decide_eq_true plain) _)
  have modify (target : Operand) {f : Int → Registers → Registers} (g : Int → Int)
      (flags : ∀ value r, (f value r).flags.c = r.flags.c)
      : Leaves carry (readOperand bus immediate target >>= fun value =>
          onRegisters (f value) >>= fun _ =>
            writeOperand bus immediate target (g value) >>= fun _ => pure false) :=
    (readOperand_carry _ _).bind fun value => (onRegisters_carry (flags value)).bind fun _ =>
      (writeOperand_carry _ _ _).answering _
  have replace (target : Operand) (f : Int → Int)
      : Leaves carry (readOperand bus immediate target >>= fun value =>
          writeOperand bus immediate target (f value) >>= fun _ => pure false) :=
    (readOperand_carry _ _).bind fun _ => (writeOperand_carry _ _ _).answering _
  cases instruction with
  | arithmetic | rotate | rlca | rrca | rla | rra | daa | scf | ccf | addHl | addSpOffset
  | hlFromSpOffset => cases spares
  | load target source =>
      exact (readOperand_carry _ _).bind fun _ => (writeOperand_carry _ _ _).answering _
  | loadWord target => exact (pair target spares fun _ => immediate).answering _
  | incWord target => exact (pair target spares fun r => (r.get16 target + 1) % 65536).answering _
  | decWord target => exact (pair target spares fun r => (r.get16 target - 1) % 65536).answering _
  | pop target =>
      have popped : Leaves carry (Core.pop bus) := fun _ => rfl
      exact popped.bind fun value => (pair target spares fun _ => value).answering _
  | inc target => exact modify target _ fun _ _ => rfl
  | dec target => exact modify target _ fun _ _ => rfl
  | jump condition =>
      have jumped : Leaves carry (jumpTo (μ := μ) immediate) := fun _ => rfl
      exact Frame.onTest jumped
  | jumpRelative condition => exact Frame.onTest (onRegisters_carry fun _ => rfl)
  | call condition =>
      have called : Leaves carry
          (getRegisters >>= fun r => push bus r.pc >>= fun _ => jumpTo immediate) := fun _ => rfl
      exact Frame.onTest called
  | ret condition =>
      have returned : Leaves carry (Core.pop bus >>= jumpTo) := fun _ => rfl
      exact Frame.onTest returned
  | bit index source =>
      have tested (value : Int) : Leaves carry (onRegisters (μ := μ) fun r =>
          r.setFlags { r.flags with z := !Bits.bit index value, n := false, h := true }) :=
        fun _ => rfl
      exact (readOperand_carry _ _).bind fun value => (tested value).answering _
  | reset index target => exact replace target _
  | set index target => exact replace target _
  | halt =>
      intro core
      rw [run_halt]
      split <;> rfl
  | _ => exact fun _ => rfl

theorem enact_carry {script : Script} (spares : script.SparesCarry) (core : Core μ)
    : (core.enact bus script).carry = core.carry := by
  induction script generalizing core with
  | nil => rfl
  | cons line rest ih =>
      obtain ⟨first, others⟩ := List.forall_mem_cons.mp spares
      exact (ih others _).trans (execute_carry first line.2 core)

end Core

-----------------------------------------------------------------------------------------
-- Byte after byte
-----------------------------------------------------------------------------------------

/-- The same work is done on one byte after another. Around it stand instructions that leave the
carry flag alone.
-/
inductive Cascade (bus : Bus μ) (Works : α → Core μ → Byte → Core μ → Prop)
    : List α → Core μ → List Byte → Core μ → Prop
  | done {script : Script} {core : Core μ} (spares : script.SparesCarry)
    : Cascade bus Works [] core [] (core.enact bus script)
  | next {script : Script} {core middle after : Core μ} {given : α} {made : Byte}
      {others : List α} {rest : List Byte} (spares : script.SparesCarry)
      (works : Works given (core.enact bus script) made middle)
      (further : Cascade bus Works others middle rest after)
    : Cascade bus Works (given :: others) core (made :: rest) after

/-- The first byte is worked on in a way of its own. -/
inductive LedCascade (bus : Bus μ) (Leads Works : α → Core μ → Byte → Core μ → Prop)
    : List α → Core μ → List Byte → Core μ → Prop
  | next {script : Script} {core middle after : Core μ} {given : α} {made : Byte}
      {others : List α} {rest : List Byte} (spares : script.SparesCarry)
      (leads : Leads given (core.enact bus script) made middle)
      (further : Cascade bus Works others middle rest after)
    : LedCascade bus Leads Works (given :: others) core (made :: rest) after

/-- The work can be done on everything, once the right instructions have gone before. -/
def Able (bus : Bus μ) (Works : α → Core μ → Byte → Core μ → Prop) : Prop :=
  ∀ (given : α) (core : Core μ), ∃ script made after,
    Script.SparesCarry script ∧ Works given (core.enact bus script) made after

/-- There are such runs, and this is what all of them make and what carry they leave. -/
def Yields (run : List Byte → Core μ → Prop) (result : List Byte → Bool → Prop) : Prop :=
  (∃ made after, run made after) ∧ ∀ made after, run made after → result made after.carry

theorem Yields.imp {run : List Byte → Core μ → Prop} {result weaker : List Byte → Bool → Prop}
    (yields : Yields run result) (weaken : ∀ made carry, result made carry → weaker made carry)
    : Yields run weaker :=
  ⟨yields.1, fun made after ran => weaken made after.carry (yields.2 made after ran)⟩

section Cascades

variable {Works Leads : α → Core μ → Byte → Core μ → Prop} {given : List α} {made : List Byte}
  {core after : Core μ}

theorem Cascade.length_eq (chain : Cascade bus Works given core made after)
    : given.length = made.length := by
  induction chain with
  | done => rfl
  | next _ _ _ ih => exact congrArg (· + 1) ih

theorem LedCascade.length_eq (chain : LedCascade bus Leads Works given core made after)
    : given.length = made.length := by
  cases chain with
  | next _ _ further => exact congrArg (· + 1) further.length_eq

theorem Cascade.exists (able : Able bus Works) (given : List α) (core : Core μ)
    : ∃ made after, Cascade bus Works given core made after := by
  induction given generalizing core with
  | nil =>
      have nothing : Script.SparesCarry [] := fun _ inside => nomatch inside
      exact ⟨[], _, .done nothing⟩
  | cons first others ih =>
      obtain ⟨script, made, middle, spares, works⟩ := able first core
      obtain ⟨rest, after, further⟩ := ih middle
      exact ⟨made :: rest, after, .next spares works further⟩

theorem LedCascade.exists (leading : Able bus Leads) (able : Able bus Works) {given : List α}
    (nonempty : given ≠ []) (core : Core μ)
    : ∃ made after, LedCascade bus Leads Works given core made after := by
  obtain ⟨first, others, rfl⟩ := List.exists_cons_of_ne_nil nonempty
  obtain ⟨script, made, middle, spares, leads⟩ := leading first core
  obtain ⟨rest, after, further⟩ := Cascade.exists able others middle
  exact ⟨made :: rest, after, .next spares leads further⟩

/-- What is made of each byte is made of all. -/
theorem Cascade.forall_made {P : Byte → Prop}
    (law : ∀ part ∈ given, ∀ {core byte after}, Works part core byte after → P byte)
    (chain : Cascade bus Works given core made after)
    : ∀ byte ∈ made, P byte := by
  induction chain with
  | done => exact fun _ inside => nomatch inside
  | next _ works _ ih =>
      exact List.forall_mem_cons.mpr
        ⟨law _ (.head _) works, ih fun part inside => law part (.tail _ inside)⟩

-----------------------------------------------------------------------------------------
-- The carry across all bytes
-----------------------------------------------------------------------------------------

variable {b : Nat} {p q s : α × Byte → Nat}

theorem map_given {β γ : Type} {made : List β} (length : given.length = made.length) (f : α → γ)
    : (given.zip made).map (fun pair => f pair.1) = given.map f := by
  have parts : (given.zip made).map (f ∘ Prod.fst) = given.map f := by
    rw [← List.map_map, List.map_fst_zip length.le]
  exact parts

theorem map_made {β γ : Type} {made : List β} (length : given.length = made.length) (f : β → γ)
    : (given.zip made).map (fun pair => f pair.2) = made.map f := by
  have parts : (given.zip made).map (f ∘ Prod.snd) = made.map f := by
    rw [← List.map_map, List.map_snd_zip length.ge]
  exact parts

/-- The equation of a digit and that of the digits above it make up one. -/
theorem carried_cons {p q s c P Q S n passed last : Nat} (low : p + q + c = s + b * passed)
    (high : P + Q + passed = S + b ^ n * last)
    : p + b * P + (q + b * Q) + c = s + b * S + b ^ (n + 1) * last := by
  calc p + b * P + (q + b * Q) + c
      = (p + q + c) + b * (P + Q) := by ring
    _ = s + b * (P + Q + passed) := by rw [low]; ring
    _ = s + b * S + b ^ (n + 1) * last := by rw [high]; ring

/-- If the digits of two numbers add up to those of a third, with the carry from byte to byte, then
so do the numbers. The bytes go upwards.
-/
theorem Cascade.rising
    (law : ∀ part ∈ given, ∀ {core byte after}, Works part core byte after →
      p (part, byte) + q (part, byte) + core.carry.toNat
        = s (part, byte) + b * after.carry.toNat)
    (chain : Cascade bus Works given core made after)
    : Nat.ofDigits b ((given.zip made).map p) + Nat.ofDigits b ((given.zip made).map q)
        + core.carry.toNat
      = Nat.ofDigits b ((given.zip made).map s) + b ^ given.length * after.carry.toNat := by
  induction chain with
  | done spares => simp [Core.enact_carry spares]
  | next spares works further ih =>
      have low := law _ (.head _) works
      rw [Core.enact_carry spares] at low
      exact carried_cons low (ih fun part inside => law part (.tail _ inside))

/-- The same, if the first byte starts without a carry. -/
theorem LedCascade.rising
    (start : ∀ {part core byte after}, Leads part core byte after →
      p (part, byte) + q (part, byte) = s (part, byte) + b * after.carry.toNat)
    (law : ∀ {part core byte after}, Works part core byte after →
      p (part, byte) + q (part, byte) + core.carry.toNat
        = s (part, byte) + b * after.carry.toNat)
    (chain : LedCascade bus Leads Works given core made after)
    : Nat.ofDigits b ((given.zip made).map p) + Nat.ofDigits b ((given.zip made).map q)
      = Nat.ofDigits b ((given.zip made).map s) + b ^ given.length * after.carry.toNat := by
  cases chain with
  | next _ leads further =>
      exact carried_cons (c := 0) (start leads) (further.rising fun _ _ => law)

/-- The equation of some digits and that of the digit above them make up one. -/
theorem carried_snoc {p q s c P Q S n passed last : Nat} (high : p + q + passed = s + b * c)
    (low : P + Q + last = S + b ^ n * passed)
    : P + b ^ n * p + (Q + b ^ n * q) + last = S + b ^ n * s + b ^ (n + 1) * c := by
  calc P + b ^ n * p + (Q + b ^ n * q) + last
      = (P + Q + last) + b ^ n * (p + q) := by ring
    _ = S + b ^ n * (p + q + passed) := by rw [low]; ring
    _ = S + b ^ n * s + b ^ (n + 1) * c := by rw [high]; ring

/-- If the bytes go downwards, what is handed on is worth one of the byte above. -/
theorem Cascade.falling
    (law : ∀ {part core byte after}, Works part core byte after →
      p (part, byte) + q (part, byte) + after.carry.toNat
        = s (part, byte) + b * core.carry.toNat)
    (chain : Cascade bus Works given core made after)
    : Nat.ofDigits b ((given.zip made).map p).reverse
        + Nat.ofDigits b ((given.zip made).map q).reverse + after.carry.toNat
      = Nat.ofDigits b ((given.zip made).map s).reverse
        + b ^ given.length * core.carry.toNat := by
  induction chain with
  | done spares => simp [Core.enact_carry spares]
  | next spares works further ih =>
      have high := law works
      rw [Core.enact_carry spares] at high
      simp only [List.zip_cons_cons, List.map_cons, Nat.ofDigits_reverse_cons, List.length_map,
        List.length_zip, ← further.length_eq, min_self, List.length_cons]
      exact carried_snoc high ih

/-- The same, if the first byte takes in something else than the carry. -/
theorem LedCascade.falling {lead : Nat} {first : α} {others : List α}
    (start : ∀ {core byte after}, Leads first core byte after →
      p (first, byte) + q (first, byte) + after.carry.toNat = s (first, byte) + b * lead)
    (law : ∀ {part core byte after}, Works part core byte after →
      p (part, byte) + q (part, byte) + after.carry.toNat
        = s (part, byte) + b * core.carry.toNat)
    (chain : LedCascade bus Leads Works (first :: others) core made after)
    : Nat.ofDigits b (((first :: others).zip made).map p).reverse
        + Nat.ofDigits b (((first :: others).zip made).map q).reverse + after.carry.toNat
      = Nat.ofDigits b (((first :: others).zip made).map s).reverse
        + b ^ (first :: others).length * lead := by
  cases chain with
  | next _ leads further =>
      simp only [List.zip_cons_cons, List.map_cons, Nat.ofDigits_reverse_cons, List.length_map,
        List.length_zip, ← further.length_eq, min_self, List.length_cons]
      exact carried_snoc (start leads) (further.falling law)

end Cascades

/-- A processor after a reset, whose carry flag is set, before a memory of zeros. -/
def blank : Core FlatRam where
  cpu := powerOn
  interrupts := {}
  memory := FlatRam.zeros

end Handheld.Cpu
