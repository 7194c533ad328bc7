import Handheld.Proofs.Cpu.Execution
import Handheld.Proofs.Reference.Words
import Handheld.Proofs.Simulation

/-! The processor and the reference processor carry out operations in step.
They keep the same registers, latches and memory. The time is compared apart, because the
processor looks its costs up in a table.
-/

namespace Handheld.Reference

open Cpu (Core Recorded FlatRam Registers Register16 Pointer Condition Instruction Arithmetic
  Rotation BusWrite)

/-- The flat memory of the processor, with the writes made to it. -/
abbrev flat : Cpu.Bus (Recorded FlatRam) := FlatRam.bus.recorded

/-- A write that the reference processor has made, as a bus records it. -/
def recorded (write : Word × Byte) : BusWrite :=
  ⟨write.1.toNat, write.2.toNat⟩

/-- A processor over recorded flat memory is in the state that a reference machine shows. -/
structure Shows (core : Core (Recorded FlatRam)) (m : Machine) : Prop where
  registers : Holds core.cpu.registers m.words
  halted : core.cpu.halted = m.halted
  stopped : core.cpu.stopped = m.stopped
  haltBug : core.cpu.haltBug = m.haltBug
  eiPending : core.cpu.eiPending = m.eiPending
  ime : core.interrupts.master = m.ime
  enable : core.interrupts.enable = m.enable
  requests : core.interrupts.requests = m.requests
  ram : core.memory.memory = m.ram
  writes : core.memory.writes = m.writes.map recorded

/-- Any two answers. -/
def Any {α β : Type} (_ : α) (_ : β) : Prop := True

section

variable {α β γ : Type} {V : α → β → Prop}

/-- The answer of the processor may be dropped. -/
theorem discard {p : StateM (Core (Recorded FlatRam)) α} {q : StateM Machine β} {c : γ}
    (simulation : Simulation Shows V p q)
    : Simulation Shows Any (p >>= fun _ => pure c) q :=
  fun core m shows => ⟨trivial, (simulation core m shows).2⟩

/-- The reference machine may let time pass. -/
theorem behindIdle {p : StateM (Core (Recorded FlatRam)) α} {q : PUnit → StateM Machine β}
    {cycles : Nat} (simulation : Simulation Shows V p (q ⟨⟩))
    : Simulation Shows V p (idle cycles >>= q) :=
  fun core _ shows => simulation core _ { shows with }

end

-----------------------------------------------------------------------------------------
-- Registers and memory
-----------------------------------------------------------------------------------------

theorem simulation_getWords : Simulation Shows Holds Core.getRegisters getWords :=
  fun _ _ shows => ⟨shows.registers, shows⟩

/-- The register files may be changed alike. -/
theorem simulation_onWords {f : Registers → Registers} {g : Words → Words}
    (keeps : ∀ r w, Holds r w → Holds (f r) (g w))
    : Simulation Shows Any (Core.onRegisters f) (onWords g) :=
  fun _ _ shows => ⟨trivial, { shows with registers := keeps _ _ shows.registers }⟩

/-- A byte read from flat memory. -/
theorem run_readByte (address : Int) (core : Core (Recorded FlatRam))
    : (Core.readByte flat address).run core
      = (((core.memory.memory.get address).toNat : Int), core) := by
  have bound := (core.memory.memory.get address).isLt
  have byte : ((core.memory.memory.get address).toNat : Int) % 256
      = (core.memory.memory.get address).toNat := by omega
  exact Prod.ext byte rfl

/-- A cell is read at the number that its address stands for. -/
theorem simulation_read {number : Int} {address : Word} (same : Number number address)
    : Simulation Shows Number (Core.readByte flat number) (read address) := by
  intro core m shows
  rw [same, run_readByte, shows.ram]
  exact ⟨rfl, { shows with }⟩

/-- A cell is written at the number that its address stands for. -/
theorem simulation_write {number value : Int} {address : Word} {byte : Byte}
    (same : Number number address) (holds : Number value byte)
    : Simulation Shows Any (Core.write flat number value) (write address byte) := by
  intro core m shows
  have stored : Byte.ofInt value = byte := by
    rw [holds]
    exact BitVec.ofInt_natCast .. |>.trans (by simp)
  rw [same]
  refine ⟨trivial, { shows with ram := ?_, writes := ?_ }⟩
  · change core.memory.memory.set address.toNat (Byte.ofInt value) = m.ram.set address.toNat byte
    rw [stored, shows.ram]
  · change ⟨address.toNat, value⟩ :: core.memory.writes = recorded (address, byte) :: _
    rw [shows.writes, holds]
    rfl

/-- The program counter may be set, in no time or in a machine cycle. -/
theorem simulation_jump {number : Int} {address : Word} (same : Number number address)
    : Simulation Shows Any (Core.jumpTo number) (jump address) :=
  fun _ _ shows => ⟨trivial, { shows with registers := { shows.registers with pc := same } }⟩

/-- A word is put on the stack in two writes, high byte first. -/
theorem simulation_push {number : Int} {word : Word} (same : Number number word)
    : Simulation Shows Any (Core.push flat number) (push word) := by
  intro core m shows
  have above : Number ((core.cpu.registers.sp - 1) % 65536) (m.words.sp - 1) := by
    rw [shows.registers.sp, Number, decrementWord_toNat]
  have below : Number (((core.cpu.registers.sp - 1) % 65536 - 1) % 65536) (m.words.sp - 2) := by
    rw [above, Number, decrementWord_toNat, BitVec.sub_sub]
    rfl
  have high : Number (number / 256 % 256) (word.extractLsb' 8 8) := by
    rw [same]
    exact high_toNat word
  have low : Number (number % 256) (word.extractLsb' 0 8) := by
    rw [same]
    exact low_toNat word
  -- Flat memory does not see when the stack pointer moves, so it may move at the end.
  have first := (simulation_write above high core m shows).2
  have second := (simulation_write below low _ _ first).2
  exact ⟨trivial, { second with registers := { second.registers with sp := below } }⟩

/-- A word is taken from the stack in two reads, low byte first. -/
theorem simulation_pop
    : Simulation Shows Number (Core.pop flat) pop := by
  intro core m shows
  have above : Number ((core.cpu.registers.sp + 1) % 65536) (m.words.sp + 1) := by
    rw [shows.registers.sp, Number, incrementWord_toNat]
  have beyond : Number (((core.cpu.registers.sp + 1) % 65536 + 1) % 65536) (m.words.sp + 2) := by
    rw [above, Number, incrementWord_toNat, BitVec.add_assoc]
    rfl
  obtain ⟨low, first⟩ := simulation_read shows.registers.sp core m shows
  obtain ⟨high, second⟩ := simulation_read above _ _ first
  refine ⟨?_, { second with registers := { second.registers with sp := beyond } }⟩
  exact high.join low

/-- A test has the same outcome, so it is enough to carry out alike what is done in either case. -/
theorem onTest {α β : Type} {V : α → β → Prop} {test : Option Condition}
    {p p' : Bool → StateM (Core (Recorded FlatRam)) α} {q q' : StateM Machine β}
    (yes : ∀ taken, Simulation Shows V (p taken) q)
    (no : ∀ taken, Simulation Shows V (p' taken) q')
    : Simulation Shows V
        (Core.isTaken test >>= fun taken => if taken then p taken else p' taken)
        (getWords >>= fun w => if w.holds test then q else q') := by
  intro core m shows
  have left : (Core.isTaken test >>= fun taken => if taken then p taken else p' taken).run core
      = (if m.words.holds test then p (m.words.holds test) else p' (m.words.holds test)).run
          core := by
    rw [StateT.run_bind, Core.run_isTaken, shows.registers.test]
    rfl
  have right : (getWords >>= fun w => if w.holds test then q else q').run m
      = (if m.words.holds test then q else q').run m := rfl
  rw [left, right]
  cases m.words.holds test with
  | false => exact no false core m shows
  | true => exact yes true core m shows

-----------------------------------------------------------------------------------------
-- Operands
-----------------------------------------------------------------------------------------

/-- A pointer denotes the same cell, and moves `HL` alike. -/
theorem simulation_locate (operand : Word) (pointer : Pointer)
    : Simulation Shows Number (Core.addressOf operand.toNat pointer) (locate operand pointer) := by
  refine simulation_getWords.bind fun r w holds => ?_
  cases pointer with
  | bc => exact Simulation.pure (holds.get16 .bc)
  | de => exact Simulation.pure (holds.get16 .de)
  | hl => exact Simulation.pure (holds.get16 .hl)
  | hlUp =>
      refine Simulation.seq (simulation_onWords fun _ _ between => ?_)
        (Simulation.pure (holds.get16 .hl))
      rw [holds.get16, incrementWord_toNat]
      exact between.set16 .hl _
  | hlDown =>
      refine Simulation.seq (simulation_onWords fun _ _ between => ?_)
        (Simulation.pure (holds.get16 .hl))
      rw [holds.get16, decrementWord_toNat]
      exact between.set16 .hl _
  | pageC =>
      refine Simulation.pure ?_
      rw [holds.c]
      exact page_toNat w.c
  | page =>
      refine Simulation.pure ?_
      rw [low_setWidth]
      exact pageSum_toNat _
  | absolute =>
      refine Simulation.pure ?_
      have bound := operand.isLt
      simp only [Number]
      omega

/-- The operand in a slot is the same. -/
theorem simulation_load (immediate : Int) (slot : Slot)
    : Simulation Shows Number
        (Core.readOperand flat immediate slot.operand) (load slot) := by
  intro core m shows
  have holds := shows.registers
  cases slot with
  | b => exact ⟨holds.b, shows⟩
  | c => exact ⟨holds.c, shows⟩
  | d => exact ⟨holds.d, shows⟩
  | e => exact ⟨holds.e, shows⟩
  | h => exact ⟨holds.h, shows⟩
  | l => exact ⟨holds.l, shows⟩
  | atHl => exact simulation_read (holds.get16 .hl) core m shows
  | a => exact ⟨holds.a, shows⟩

/-- A byte may be stored in a slot as any number that denotes it. -/
theorem simulation_store (immediate : Int) (slot : Slot) {value : Int} {byte : Byte}
    (same : Number (value % 256) byte)
    : Simulation Shows Any
        (Core.writeOperand flat immediate slot.operand value)
        (store slot byte) := by
  intro core m shows
  have holds := shows.registers
  cases slot with
  | b => exact ⟨trivial, { shows with registers := { holds with b := same } }⟩
  | c => exact ⟨trivial, { shows with registers := { holds with c := same } }⟩
  | d => exact ⟨trivial, { shows with registers := { holds with d := same } }⟩
  | e => exact ⟨trivial, { shows with registers := { holds with e := same } }⟩
  | h => exact ⟨trivial, { shows with registers := { holds with h := same } }⟩
  | l => exact ⟨trivial, { shows with registers := { holds with l := same } }⟩
  | atHl => exact simulation_write (holds.get16 .hl) same core m shows
  | a => exact ⟨trivial, { shows with registers := { holds with a := same } }⟩

-----------------------------------------------------------------------------------------
-- Operations
-----------------------------------------------------------------------------------------

/-- Every operation is carried out in step. -/
theorem simulation_execute (operation : Operation) (operand : Word)
    (fits : Fits operand operation)
    : Simulation Shows Any
        (Core.execute flat operation.instruction operand.toNat) (execute operation operand) := by
  cases operation with
  | nop => exact Simulation.pure trivial
  | stop =>
      intro core m shows
      have written := (simulation_write (show Number 0xFF04 0xFF04#16 from rfl)
        (show Number 0 0#8 from rfl) core m shows).2
      exact ⟨trivial, { written with stopped := rfl }⟩
  | halt =>
      intro core m shows
      have waits : (!core.interrupts.master && core.interrupts.hasPending)
          = (!m.ime && m.pending ≠ 0) := by
        rw [shows.ime, Interrupts.hasPending, Interrupts.pending, shows.enable, shows.requests]
        rfl
      have right : (execute .halt operand).run m
          = ((), if !m.ime && m.pending ≠ 0 then { m with haltBug := true }
              else { m with halted := true }) := rfl
      rw [Operation.instruction, Core.run_halt, right, waits]
      cases !m.ime && m.pending ≠ 0 with
      | false => exact ⟨trivial, { shows with halted := rfl }⟩
      | true => exact ⟨trivial, { shows with haltBug := rfl }⟩
  | di => exact fun _ _ shows => ⟨trivial, { shows with ime := rfl, eiPending := rfl }⟩
  | ei => exact fun _ _ shows => ⟨trivial, { shows with eiPending := rfl }⟩
  | move target source =>
      refine (simulation_load _ source).bind fun number byte same => ?_
      exact discard (simulation_store _ target same.low)
  | moveByte target =>
      exact discard (simulation_store _ target (Number.low (low_setWidth operand)))
  | loadA source =>
      change Simulation Shows Any
        (Core.addressOf operand.toNat source >>= fun address => Core.readByte flat address >>=
          fun value => Core.onRegisters (·.set8 .a (value % 256)) >>= fun _ => pure false) _
      refine (simulation_locate operand source).bind fun _ _ address => ?_
      refine (simulation_read address).bind fun number byte same => ?_
      exact discard (simulation_onWords fun _ _ holds => holds.setA same.low)
  | storeA target =>
      change Simulation Shows Any
        (Core.getRegisters >>= fun r => (Core.addressOf operand.toNat target >>=
          fun address => Core.write flat address (r.a % 256)) >>= fun _ => pure false) _
      refine simulation_getWords.bind fun r w holds => ?_
      exact discard ((simulation_locate operand target).bind fun _ _ address =>
        simulation_write address (Number.low holds.a))
  | moveWord target =>
      exact discard (simulation_onWords fun _ _ holds => holds.set16 target operand)
  | storeSp =>
      refine simulation_getWords.bind fun r w holds => ?_
      refine (simulation_write rfl ?_).seq (discard (simulation_write ?_ ?_))
      · rw [holds.sp]
        exact low_toNat w.sp
      · exact incrementWord_toNat operand
      · have bound := w.sp.isLt
        rw [holds.sp, Number, ← high_toNat]
        omega
  | spFromHl =>
      refine discard (behindIdle (simulation_onWords fun r w holds => ?_))
      exact { holds with sp := holds.get16 .hl }
  | hlFromSp =>
      refine discard (behindIdle (simulation_onWords fun r w holds => ?_))
      rw [fits.toNat_setWidth rfl]
      obtain ⟨result, flagged⟩ := holds.spPlus (operand.setWidth 8)
      simp only [result]
      exact flagged.set16 .hl _
  | addSp =>
      refine discard (behindIdle (simulation_onWords fun r w holds => ?_))
      rw [fits.toNat_setWidth rfl]
      obtain ⟨result, flagged⟩ := holds.spPlus (operand.setWidth 8)
      exact { flagged with sp := result }
  | push source =>
      refine behindIdle (simulation_getWords.bind fun r w holds => ?_)
      exact discard (simulation_push (holds.get16 source))
  | pop target =>
      refine simulation_pop.bind fun number word same => ?_
      rw [same]
      exact discard (simulation_onWords fun _ _ holds => holds.set16 target word)
  | inc target =>
      refine (simulation_load _ target).bind fun number byte same => ?_
      rw [same, increment_toNat]
      refine (simulation_onWords fun _ _ holds => holds.flagIncrement byte).seq ?_
      exact discard (simulation_store _ target (Number.low rfl))
  | dec target =>
      refine (simulation_load _ target).bind fun number byte same => ?_
      rw [same, decrement_toNat]
      refine (simulation_onWords fun _ _ holds => holds.flagDecrement byte).seq ?_
      exact discard (simulation_store _ target (Number.low rfl))
  | incWord target =>
      exact discard (behindIdle (simulation_onWords fun _ _ holds => holds.incWord target))
  | decWord target =>
      exact discard (behindIdle (simulation_onWords fun _ _ holds => holds.decWord target))
  | arithmetic operation source =>
      refine (simulation_load _ source).bind fun number byte same => ?_
      rw [same]
      exact discard (simulation_onWords fun _ _ holds => holds.accumulate operation byte)
  | arithmeticByte operation =>
      refine discard (simulation_onWords fun _ _ holds => ?_)
      rw [low_setWidth]
      exact holds.accumulate operation _
  | addHl source =>
      exact discard (behindIdle (simulation_onWords fun _ _ holds => holds.addHl source))
  | rotateA right through =>
      cases right <;> cases through
      all_goals exact discard (simulation_onWords fun _ _ holds => holds.rotateA _)
  | daa => exact discard (simulation_onWords fun _ _ holds => holds.decimalAdjust)
  | cpl => exact discard (simulation_onWords fun _ _ holds => holds.complement)
  | scf => exact discard (simulation_onWords fun _ _ holds => holds.setCarry true)
  | ccf =>
      refine discard (simulation_onWords fun _ _ holds => ?_)
      rw [holds.carry]
      exact holds.setCarry _
  | jump test =>
      exact onTest (fun _ => discard (simulation_jump rfl)) fun _ => Simulation.pure trivial
  | jumpHl =>
      refine discard (simulation_onWords fun _ _ holds => ?_)
      exact { holds with pc := holds.get16 .hl }
  | jumpRelative test =>
      refine onTest (fun _ => ?_) fun _ => Simulation.pure trivial
      intro core m shows
      have target : Number
          ((core.cpu.registers.pc + Bits.signed operand.toNat) % 65536)
          (m.words.pc + (operand.setWidth 8).signExtend 16) := by
        rw [fits.toNat_setWidth rfl, shows.registers.pc]
        exact signed_toNat _ _
      exact ⟨trivial, { shows with registers := { shows.registers with pc := target } }⟩
  | call test =>
      refine onTest (fun _ => ?_) fun _ => Simulation.pure trivial
      refine simulation_getWords.bind fun r w holds => ?_
      exact (simulation_push holds.pc).seq (discard (simulation_jump rfl))
  | ret test =>
      have returned : ∀ taken : Bool, Simulation Shows Any
          (Core.pop flat >>= fun address => Core.jumpTo address >>= fun _ => pure taken)
          (pop >>= jump) :=
        fun _ => simulation_pop.bind fun _ _ same => discard (simulation_jump same)
      cases test with
      | none => exact onTest returned fun _ => Simulation.pure trivial
      | some condition => exact behindIdle (onTest returned fun _ => Simulation.pure trivial)
  | reti =>
      refine simulation_pop.bind fun number word same => ?_
      refine (simulation_jump same).seq ?_
      exact fun _ _ shows => ⟨trivial, { shows with ime := rfl }⟩
  | rst index =>
      refine simulation_getWords.bind fun r w holds => ?_
      refine (simulation_push holds.pc).seq ?_
      exact discard (simulation_jump (vector_toNat index))
  | rotate rotation target =>
      refine (simulation_load _ target).bind fun number byte same => ?_
      rw [same]
      intro core m shows
      have result : Number _ (Words.rotated rotation byte m.words.carry).1 :=
        shows.registers.rotated rotation byte
      have flagged := shows.registers.rotatedFlags rotation byte
      have between : Shows
          { core with cpu.registers := (rotation.apply byte.toNat core.cpu.registers).2 }
          { m with
            words := m.words.setFlags ((Words.rotated rotation byte m.words.carry).1 = 0)
              false false (Words.rotated rotation byte m.words.carry).2 } :=
        { shows with registers := flagged }
      exact ⟨trivial, (simulation_store operand.toNat target result.low _ _ between).2⟩
  | bit index source =>
      refine (simulation_load _ source).bind fun number byte same => ?_
      refine discard (simulation_onWords fun _ _ holds => ?_)
      rw [same, bit_toNat, holds.carry]
      exact holds.setFlags _ _ _ _
  | reset index target =>
      refine (simulation_load _ target).bind fun number byte same => ?_
      rw [same]
      exact discard (simulation_store _ target (reset_toNat index byte))
  | set index target =>
      refine (simulation_load _ target).bind fun number byte same => ?_
      rw [same]
      exact discard (simulation_store _ target (set_toNat index byte))

end Handheld.Reference
