import Handheld.Proofs.Cpu.Execution
import Handheld.Proofs.Reference.Machine
import Handheld.Proofs.Reference.Words

/-! A processor sees of its memory only what the bus answers.
Two processors in the same state, on buses that answer alike, take the same steps and stay in the
same state; their registers stay in range on the way.
-/

namespace Handheld.Cpu

open Reference (Words Holds Slot Operation)

variable {μ ν : Type} {R : Interrupts × μ → Interrupts × ν → Prop}

/-- Accesses within the address space do not tell two buses apart, and keep their surroundings
related. A processor looks at nothing but the master switch and the enabled requests besides.
-/
structure Bus.Congruent (R : Interrupts × μ → Interrupts × ν → Prop) (bus : Bus μ) (other : Bus ν)
    : Prop where
  master : ∀ {s t}, R s t → s.1.master = t.1.master
  pending : ∀ {s t}, R s t → s.1.pending = t.1.pending
  setMaster
    : ∀ {s t}, R s t → ∀ enabled, R (s.1.setMaster enabled, s.2) (t.1.setMaster enabled, t.2)
  acknowledge
    : ∀ {s t}, R s t → ∀ source, R (s.1.acknowledge source, s.2) (t.1.acknowledge source, t.2)
  answer
    : ∀ {s t}, R s t → ∀ address : Word,
        (bus.read address.toNat s.1 s.2).1 % 256 = (other.read address.toNat t.1 t.2).1 % 256
  read
    : ∀ {s t}, R s t → ∀ address : Word,
        R (bus.read address.toNat s.1 s.2).2 (other.read address.toNat t.1 t.2).2
  write
    : ∀ {s t}, R s t → ∀ (address : Word) (value : Byte),
        R (bus.write address.toNat value.toNat s.1 s.2)
          (other.write address.toNat value.toNat t.1 t.2)

/-- Two register files hold the same words. They may differ in how their flags were set. -/
def Registers.Same (r q : Registers) : Prop :=
  ∃ w, Holds r w ∧ Holds q w

/-- Register files hold the same words just if they are in range and equal, apart from how their
flags were set.
-/
theorem Registers.same_iff {r q : Registers}
    : r.Same q ↔ r.InRange ∧ r.settled = q.settled := by
  constructor
  · rintro ⟨w, left, right⟩
    exact ⟨left.inRange, left.settled_eq right⟩
  · rintro ⟨inRange, settled⟩
    have left := Holds.ofRegisters inRange
    have right : Holds q.settled (Words.ofRegisters r) := settled ▸ { left with }
    exact ⟨Words.ofRegisters r, left, { right with }⟩

/-- Two processors are in the same state, and so is what surrounds them, as far as it is related. -/
structure Core.Alike (R : Interrupts × μ → Interrupts × ν → Prop) (c : Core μ) (d : Core ν)
    : Prop where
  registers : c.cpu.registers.Same d.cpu.registers
  halted : c.cpu.halted = d.cpu.halted
  stopped : c.cpu.stopped = d.cpu.stopped
  haltBug : c.cpu.haltBug = d.cpu.haltBug
  eiPending : c.cpu.eiPending = d.cpu.eiPending
  instructionCount : c.cpu.instructionCount = d.cpu.instructionCount
  lastInstruction : c.cpu.lastInstruction = d.cpu.lastInstruction
  lastInterrupt : c.cpu.lastInterrupt = d.cpu.lastInterrupt
  around : R (c.interrupts, c.memory) (d.interrupts, d.memory)

/-- Two numbers stand for the same word. -/
def Both (width : Nat) (x y : Int) : Prop :=
  ∃ word : BitVec width, x = word.toNat ∧ y = word.toNat

/-- Any two answers. -/
def Either {α β : Type} (_ : α) (_ : β) : Prop := True

namespace Congruence

variable {bus : Bus μ} {other : Bus ν}

/-- An answer that is fixed is the same on both sides. -/
theorem answering {α β γ : Type} {V : α → β → Prop} {p : StateM (Core μ) α}
    {q : StateM (Core ν) β} {answer : γ}
    (simulation : Simulation (Core.Alike R) V p q)
    : Simulation (Core.Alike R) Eq (p >>= fun _ => pure answer) (q >>= fun _ => pure answer) :=
  simulation.bind fun _ _ _ => Simulation.pure rfl

theorem getRegisters
    : Simulation (Core.Alike R) Registers.Same Core.getRegisters Core.getRegisters :=
  fun _ _ alike => ⟨alike.registers, alike⟩

theorem getCpu
    : Simulation (Core.Alike R)
        (fun c d => c.registers.Same d.registers ∧ c.haltBug = d.haltBug
          ∧ c.eiPending = d.eiPending)
        Core.getCpu Core.getCpu :=
  fun _ _ alike => ⟨⟨alike.registers, alike.haltBug, alike.eiPending⟩, alike⟩

/-- A change keeps register files the same if it has a counterpart on words. -/
theorem onRegisters {f : Registers → Registers} {g : Words → Words}
    (keeps : ∀ r w, Holds r w → Holds (f r) (g w))
    : Simulation (Core.Alike R) Either (Core.onRegisters f) (Core.onRegisters f) := by
  intro c d alike
  obtain ⟨w, left, right⟩ := alike.registers
  exact ⟨trivial, { alike with registers := ⟨g w, keeps _ _ left, keeps _ _ right⟩ }⟩

theorem jumpTo (address : Word)
    : Simulation (Core.Alike R) Either (Core.jumpTo (address.toNat : Int))
        (Core.jumpTo (address.toNat : Int)) :=
  onRegisters (g := fun w => { w with pc := address }) fun _ _ holds => { holds with pc := rfl }

section

variable (congruent : bus.Congruent R other)
include congruent

/-- A cell gives the same low byte on both sides. -/
theorem read (address : Word)
    : Simulation (Core.Alike R) (fun x y => x % 256 = y % 256) (Core.read bus address.toNat)
        (Core.read other address.toNat) :=
  fun _ _ alike => ⟨congruent.answer alike.around address,
    { alike with around := congruent.read alike.around address }⟩

/-- A byte is read on both sides. -/
theorem readByte (address : Word)
    : Simulation (Core.Alike R) (Both 8) (Core.readByte bus address.toNat)
        (Core.readByte other address.toNat) := by
  refine (read congruent address).bind fun x y answers => Simulation.pure ?_
  exact ⟨Byte.ofInt x, Byte.toNat_ofInt x, answers.symm.trans (Byte.toNat_ofInt x)⟩

theorem write (address : Word) (value : Byte)
    : Simulation (Core.Alike R) Either (Core.write bus address.toNat value.toNat)
        (Core.write other address.toNat value.toNat) :=
  fun _ _ alike => ⟨trivial, { alike with around := congruent.write alike.around address value }⟩

/-- A word is put on the stack in two writes, between which the stack pointer moves. -/
theorem push (word : Word)
    : Simulation (Core.Alike R) Either (Core.push bus word.toNat) (Core.push other word.toNat) := by
  have lower : Simulation (Core.Alike R) Either
      (Core.onRegisters fun r => { r with sp := (r.sp - 1) % 65536 })
      (Core.onRegisters fun r => { r with sp := (r.sp - 1) % 65536 }) :=
    onRegisters (g := fun w => { w with sp := w.sp - 1 }) fun r w holds =>
      { holds with sp := by rw [holds.sp, Reference.decrementWord_toNat] }
  have put : ∀ {value : Int} {byte : Byte}, value = byte.toNat → ∀ {r q : Registers}, r.Same q →
      Simulation (Core.Alike R) Either (Core.write bus r.sp value)
        (Core.write other q.sp value) := by
    rintro value byte rfl r q ⟨w, left, right⟩
    rw [left.sp, right.sp]
    exact write congruent w.sp byte
  refine lower.bind fun _ _ _ => getRegisters.bind fun _ _ same => ?_
  refine (put (Reference.high_toNat word) same).bind fun _ _ _ => ?_
  refine lower.bind fun _ _ _ => getRegisters.bind fun _ _ same => ?_
  exact put (Reference.low_toNat word) same

/-- A word is taken from the stack in two reads, between which the stack pointer moves. -/
theorem pop : Simulation (Core.Alike R) (Both 16) (Core.pop bus) (Core.pop other) := by
  have raise : Simulation (Core.Alike R) Either
      (Core.onRegisters fun r => { r with sp := (r.sp + 1) % 65536 })
      (Core.onRegisters fun r => { r with sp := (r.sp + 1) % 65536 }) :=
    onRegisters (g := fun w => { w with sp := w.sp + 1 }) fun r w holds =>
      { holds with sp := by rw [holds.sp, Reference.incrementWord_toNat] }
  have take : ∀ {r q : Registers}, r.Same q →
      Simulation (Core.Alike R) (Both 8) (Core.readByte bus r.sp) (Core.readByte other q.sp) := by
    rintro r q ⟨w, left, right⟩
    rw [left.sp, right.sp]
    exact readByte congruent w.sp
  refine getRegisters.bind fun _ _ same => (take same).bind fun _ _ low => ?_
  refine raise.bind fun _ _ _ => getRegisters.bind fun _ _ same => ?_
  refine (take same).bind fun _ _ high => raise.bind fun _ _ _ => Simulation.pure ?_
  obtain ⟨low, rfl, rfl⟩ := low
  obtain ⟨high, rfl, rfl⟩ := high
  exact ⟨high ++ low, Reference.joinSum_toNat high low, Reference.joinSum_toNat high low⟩

end

/-- A pointer denotes the same cell on both sides, and moves `HL` alike. -/
theorem addressOf (operand : Word) (pointer : Pointer)
    : Simulation (Core.Alike R) (Both 16) (Core.addressOf operand.toNat pointer)
        (Core.addressOf operand.toNat pointer) := by
  refine getRegisters.bind fun r q same => ?_
  obtain ⟨w, left, right⟩ := same
  have moved : ∀ word : Word, Simulation (Core.Alike R) Either
      (Core.onRegisters (·.set16 .hl (word.toNat : Int)))
      (Core.onRegisters (·.set16 .hl (word.toNat : Int))) :=
    fun word => onRegisters fun _ _ holds => holds.set16 .hl word
  cases pointer with
  | bc => exact Simulation.pure ⟨w.pair .bc, left.get16 .bc, right.get16 .bc⟩
  | de => exact Simulation.pure ⟨w.pair .de, left.get16 .de, right.get16 .de⟩
  | hl => exact Simulation.pure ⟨w.pair .hl, left.get16 .hl, right.get16 .hl⟩
  | hlUp =>
      rw [left.get16, right.get16]
      dsimp only
      rw [Reference.incrementWord_toNat]
      exact (moved _).bind fun _ _ _ => Simulation.pure ⟨w.pair .hl, rfl, rfl⟩
  | hlDown =>
      rw [left.get16, right.get16]
      dsimp only
      rw [Reference.decrementWord_toNat]
      exact (moved _).bind fun _ _ _ => Simulation.pure ⟨w.pair .hl, rfl, rfl⟩
  | pageC =>
      rw [left.c, right.c]
      exact Simulation.pure ⟨_, Reference.page_toNat w.c, Reference.page_toNat w.c⟩
  | page =>
      rw [Reference.low_setWidth]
      exact Simulation.pure ⟨_, Reference.pageSum_toNat _, Reference.pageSum_toNat _⟩
  | absolute =>
      have bound := operand.isLt
      have whole : (operand.toNat : Int) % 65536 = operand.toNat := by omega
      exact Simulation.pure ⟨operand, whole, whole⟩

section

variable (congruent : bus.Congruent R other)
include congruent

/-- The operand in a slot is the same on both sides. -/
theorem readOperand (immediate : Int) (slot : Slot)
    : Simulation (Core.Alike R) (Both 8) (Core.readOperand bus immediate slot.operand)
        (Core.readOperand other immediate slot.operand) := by
  have register : ∀ {register : Register8} {content : Words → Byte},
      (∀ {r w}, Holds r w → r.get8 register = (content w).toNat) →
        Simulation (Core.Alike R) (Both 8) (Core.readOperand bus immediate (.register register))
          (Core.readOperand other immediate (.register register)) :=
    fun holds => getRegisters.bind fun _ _ ⟨w, left, right⟩ =>
      Simulation.pure ⟨_, holds left, holds right⟩
  cases slot with
  | b => exact register Holds.b
  | c => exact register Holds.c
  | d => exact register Holds.d
  | e => exact register Holds.e
  | h => exact register Holds.h
  | l => exact register Holds.l
  | atHl =>
      refine (addressOf 0 .hl).bind fun _ _ address => ?_
      obtain ⟨address, rfl, rfl⟩ := address
      exact readByte congruent address
  | a => exact register Holds.a

/-- The low byte of a number is stored in a slot on both sides. -/
theorem writeOperand (immediate : Int) (slot : Slot) {value : Int} {byte : Byte}
    (same : value % 256 = byte.toNat)
    : Simulation (Core.Alike R) Either (Core.writeOperand bus immediate slot.operand value)
        (Core.writeOperand other immediate slot.operand value) := by
  cases slot with
  | b => exact onRegisters (g := fun w => { w with b := byte }) fun _ _ h => { h with b := same }
  | c => exact onRegisters (g := fun w => { w with c := byte }) fun _ _ h => { h with c := same }
  | d => exact onRegisters (g := fun w => { w with d := byte }) fun _ _ h => { h with d := same }
  | e => exact onRegisters (g := fun w => { w with e := byte }) fun _ _ h => { h with e := same }
  | h => exact onRegisters (g := fun w => { w with h := byte }) fun _ _ h => { h with h := same }
  | l => exact onRegisters (g := fun w => { w with l := byte }) fun _ _ h => { h with l := same }
  | atHl =>
      refine (addressOf 0 .hl).bind fun _ _ address => ?_
      obtain ⟨address, rfl, rfl⟩ := address
      rw [same]
      exact write congruent address byte
  | a => exact onRegisters (g := fun w => { w with a := byte }) fun _ _ h => { h with a := same }

/-- A cell behind a pointer is read on both sides. -/
theorem readPointer (operand : Word) (pointer : Pointer)
    : Simulation (Core.Alike R) (Both 8)
        (Core.readOperand bus operand.toNat (.memory pointer))
        (Core.readOperand other operand.toNat (.memory pointer)) := by
  refine (addressOf operand pointer).bind fun _ _ address => ?_
  obtain ⟨address, rfl, rfl⟩ := address
  exact readByte congruent address

/-- A byte is written behind a pointer on both sides. -/
theorem writePointer (operand : Word) (pointer : Pointer) (byte : Byte)
    : Simulation (Core.Alike R) Either
        (Core.writeOperand bus operand.toNat (.memory pointer) byte.toNat)
        (Core.writeOperand other operand.toNat (.memory pointer) byte.toNat) := by
  refine (addressOf operand pointer).bind fun _ _ address => ?_
  obtain ⟨address, rfl, rfl⟩ := address
  have bound := byte.isLt
  have whole : (byte.toNat : Int) % 256 = byte.toNat := by omega
  rw [whole]
  exact write congruent address byte

end

/-- A test has the same outcome on both sides. -/
theorem isTaken (condition : Option Condition)
    : Simulation (Core.Alike R) Eq (Core.isTaken condition) (Core.isTaken condition) := by
  intro c d alike
  obtain ⟨w, left, right⟩ := alike.registers
  rw [Core.run_isTaken, Core.run_isTaken, left.test, right.test]
  exact ⟨rfl, alike⟩

/-- What depends on a test is carried out alike if it is in both cases. -/
theorem onTest {α β : Type} {V : α → β → Prop} {condition : Option Condition}
    {p p' : Bool → StateM (Core μ) α} {q q' : Bool → StateM (Core ν) β}
    (yes : ∀ taken, Simulation (Core.Alike R) V (p taken) (q taken))
    (no : ∀ taken, Simulation (Core.Alike R) V (p' taken) (q' taken))
    : Simulation (Core.Alike R) V
        (Core.isTaken condition >>= fun taken => if taken then p taken else p' taken)
        (Core.isTaken condition >>= fun taken => if taken then q taken else q' taken) := by
  refine (isTaken condition).bind fun taken _ same => ?_
  subst same
  cases taken with
  | false => exact no false
  | true => exact yes true

/-- Register files may be replaced by two that are the same. -/
theorem setRegisters {r q : Registers} (same : r.Same q)
    : Simulation (Core.Alike R) Either (Core.onRegisters fun _ => r)
        (Core.onRegisters fun _ => q) :=
  fun _ _ alike => ⟨trivial, { alike with registers := same }⟩

/-- The answer of a fetch that both sides give: a fault, or an instruction with an operand that
some operation asks for.
-/
def Fetched (answer other : Except Fault (Instruction × Int)) : Prop :=
  answer = other ∧ ∀ instruction immediate, answer = .ok (instruction, immediate) →
    ∃ operation operand, instruction = Operation.instruction operation
      ∧ immediate = (operand.toNat : Int) ∧ Reference.Fits operand operation

theorem Fetched.ok {operation : Operation} (operand : Word)
    (fits : Reference.Fits operand operation)
    : Fetched (.ok (operation.instruction, (operand.toNat : Int)))
        (.ok (operation.instruction, (operand.toNat : Int))) := by
  refine ⟨rfl, fun _ _ same => ⟨operation, operand, ?_, ?_, fits⟩⟩
  · exact (congrArg Prod.fst (Except.ok.inj same)).symm
  · exact (congrArg Prod.snd (Except.ok.inj same)).symm

section

variable (congruent : bus.Congruent R other)
include congruent

/-- An instruction that some operation asks for is carried out alike, and its registers stay in
range. Witness: each change of the register file has a counterpart on words.
-/
theorem execute (operation : Operation) (operand : Word)
    (fits : Reference.Fits operand operation)
    : Simulation (Core.Alike R) Eq (Core.execute bus operation.instruction operand.toNat)
        (Core.execute other operation.instruction operand.toNat) := by
  cases operation with
  | nop => exact Simulation.pure rfl
  | stop =>
      have stopped : Simulation (Core.Alike R) Either
          (Core.onCpu fun cpu => { cpu with stopped := true })
          (Core.onCpu fun cpu => { cpu with stopped := true }) :=
        fun _ _ alike => ⟨trivial, { alike with stopped := rfl }⟩
      exact stopped.bind fun _ _ _ => answering (write congruent 0xFF04 0)
  | halt =>
      intro c d alike
      have waits : (!c.interrupts.master && c.interrupts.hasPending)
          = (!d.interrupts.master && d.interrupts.hasPending) := by
        rw [congruent.master alike.around, Interrupts.hasPending,
          congruent.pending alike.around]
        rfl
      rw [Operation.instruction, Core.run_halt, Core.run_halt, waits]
      cases !d.interrupts.master && d.interrupts.hasPending with
      | false => exact ⟨rfl, { alike with halted := rfl }⟩
      | true => exact ⟨rfl, { alike with haltBug := rfl }⟩
  | di =>
      exact fun _ _ alike => ⟨rfl,
        { alike with eiPending := rfl, around := congruent.setMaster alike.around false }⟩
  | ei => exact fun _ _ alike => ⟨rfl, { alike with eiPending := rfl }⟩
  | move target source =>
      refine (readOperand congruent _ source).bind fun _ _ value => ?_
      obtain ⟨value, rfl, rfl⟩ := value
      exact answering (writeOperand congruent _ target (Reference.Number.low rfl))
  | moveByte target =>
      have low := Reference.Number.low (Reference.low_setWidth operand)
      exact answering (writeOperand congruent _ target low)
  | loadA source =>
      refine (readPointer congruent operand source).bind fun _ _ value => ?_
      obtain ⟨value, rfl, rfl⟩ := value
      exact answering (writeOperand congruent _ .a (Reference.Number.low rfl))
  | storeA target =>
      refine (readOperand congruent _ .a).bind fun _ _ value => ?_
      obtain ⟨value, rfl, rfl⟩ := value
      exact answering (writePointer congruent operand target value)
  | moveWord target =>
      exact answering (onRegisters fun _ _ holds => holds.set16 target operand)
  | storeSp =>
      refine getRegisters.bind fun _ _ same => ?_
      obtain ⟨w, left, right⟩ := same
      have bound := w.sp.isLt
      have high : (w.sp.toNat : Int) / 256 = ((w.sp.extractLsb' 8 8).toNat : Int) := by
        rw [← Reference.high_toNat]
        omega
      rw [left.sp, right.sp]
      dsimp only
      rw [Reference.low_toNat, high, Reference.incrementWord_toNat]
      exact (write congruent operand _).bind fun _ _ _ =>
        answering (write congruent (operand + 1) _)
  | spFromHl =>
      exact answering (onRegisters (g := fun w => { w with sp := w.pair .hl }) fun _ _ holds =>
        { holds with sp := holds.get16 .hl })
  | hlFromSp =>
      rw [fits.toNat_setWidth rfl]
      let moved (w : Words) : Words :=
        (w.offsetSp (operand.setWidth 8)).2.setPair .hl (w.offsetSp (operand.setWidth 8)).1
      refine answering (onRegisters (g := moved) fun _ w holds => ?_)
      obtain ⟨result, flagged⟩ := holds.spPlus (operand.setWidth 8)
      simp only [result]
      exact flagged.set16 .hl _
  | addSp =>
      rw [fits.toNat_setWidth rfl]
      let moved (w : Words) : Words :=
        { (w.offsetSp (operand.setWidth 8)).2 with sp := (w.offsetSp (operand.setWidth 8)).1 }
      refine answering (onRegisters (g := moved) fun _ w holds => ?_)
      obtain ⟨result, flagged⟩ := holds.spPlus (operand.setWidth 8)
      exact { flagged with sp := result }
  | push source =>
      refine getRegisters.bind fun _ _ same => ?_
      obtain ⟨w, left, right⟩ := same
      rw [left.get16, right.get16]
      exact answering (push congruent _)
  | pop target =>
      refine (pop congruent).bind fun _ _ word => ?_
      obtain ⟨word, rfl, rfl⟩ := word
      exact answering (onRegisters fun _ _ holds => holds.set16 target word)
  | inc target =>
      refine (readOperand congruent _ target).bind fun _ _ value => ?_
      obtain ⟨value, rfl, rfl⟩ := value
      rw [Reference.increment_toNat]
      refine (onRegisters fun _ _ holds => holds.flagIncrement value).bind fun _ _ _ => ?_
      exact answering (writeOperand congruent _ target (Reference.Number.low rfl))
  | dec target =>
      refine (readOperand congruent _ target).bind fun _ _ value => ?_
      obtain ⟨value, rfl, rfl⟩ := value
      rw [Reference.decrement_toNat]
      refine (onRegisters fun _ _ holds => holds.flagDecrement value).bind fun _ _ _ => ?_
      exact answering (writeOperand congruent _ target (Reference.Number.low rfl))
  | incWord target => exact answering (onRegisters fun _ _ holds => holds.incWord target)
  | decWord target => exact answering (onRegisters fun _ _ holds => holds.decWord target)
  | arithmetic operation source =>
      refine (readOperand congruent _ source).bind fun _ _ value => ?_
      obtain ⟨value, rfl, rfl⟩ := value
      exact answering (onRegisters fun _ _ holds => holds.accumulate operation value)
  | arithmeticByte operation =>
      let accumulated (w : Words) : Words := w.accumulate operation (operand.setWidth 8)
      refine answering (onRegisters (g := accumulated) fun _ _ holds => ?_)
      rw [Reference.low_setWidth]
      exact holds.accumulate operation (operand.setWidth 8)
  | addHl source => exact answering (onRegisters fun _ _ holds => holds.addHl source)
  | rotateA right through =>
      cases right <;> cases through
      all_goals exact answering (onRegisters fun _ _ holds => holds.rotateA _)
  | daa => exact answering (onRegisters fun _ _ holds => holds.decimalAdjust)
  | cpl => exact answering (onRegisters fun _ _ holds => holds.complement)
  | scf => exact answering (onRegisters fun _ _ holds => holds.setCarry true)
  | ccf =>
      let flipped (w : Words) : Words := w.setFlags w.zero false false (!w.carry)
      refine answering (onRegisters (g := flipped) fun _ _ holds => ?_)
      rw [← holds.carry]
      exact holds.setCarry _
  | jump test =>
      exact onTest (fun _ => answering (jumpTo operand)) fun _ => Simulation.pure rfl
  | jumpHl =>
      exact answering (onRegisters (g := fun w => { w with pc := w.pair .hl }) fun _ _ holds =>
        { holds with pc := holds.get16 .hl })
  | jumpRelative test =>
      let moved (w : Words) : Words := { w with pc := w.pc + (operand.setWidth 8).signExtend 16 }
      refine onTest (fun _ => answering (onRegisters (g := moved) fun _ _ holds => ?_)) fun _ =>
        Simulation.pure rfl
      rw [fits.toNat_setWidth rfl, holds.pc, Reference.signed_toNat]
      exact { holds with pc := rfl }
  | call test =>
      refine onTest (fun _ => getRegisters.bind fun _ _ same => ?_) fun _ => Simulation.pure rfl
      obtain ⟨w, left, right⟩ := same
      rw [left.pc, right.pc]
      exact (push congruent w.pc).bind fun _ _ _ => answering (jumpTo operand)
  | ret test =>
      refine onTest (fun _ => (pop congruent).bind fun _ _ word => ?_) fun _ => Simulation.pure rfl
      obtain ⟨word, rfl, rfl⟩ := word
      exact answering (jumpTo word)
  | reti =>
      refine (pop congruent).bind fun _ _ word => ?_
      obtain ⟨word, rfl, rfl⟩ := word
      refine (jumpTo word).bind fun _ _ _ => ?_
      exact fun _ _ alike => ⟨rfl, { alike with around := congruent.setMaster alike.around true }⟩
  | rst index =>
      refine getRegisters.bind fun _ _ same => ?_
      obtain ⟨w, left, right⟩ := same
      rw [left.pc, right.pc]
      refine (push congruent w.pc).bind fun _ _ _ => ?_
      rw [Reference.vector_toNat]
      exact answering (jumpTo _)
  | rotate rotation target =>
      refine (readOperand congruent _ target).bind fun _ _ value => ?_
      obtain ⟨value, rfl, rfl⟩ := value
      refine getRegisters.bind fun r q same => ?_
      obtain ⟨w, left, right⟩ := same
      have flags : (rotation.apply value.toNat r).2.Same (rotation.apply value.toNat q).2 :=
        ⟨_, left.rotatedFlags rotation value, right.rotatedFlags rotation value⟩
      change Simulation (Core.Alike R) Eq
        (Core.onRegisters (fun _ => (rotation.apply value.toNat r).2) >>= fun _ =>
          Core.writeOperand bus operand.toNat target.operand (rotation.apply value.toNat r).1
            >>= fun _ => pure false)
        (Core.onRegisters (fun _ => (rotation.apply value.toNat q).2) >>= fun _ =>
          Core.writeOperand other operand.toNat target.operand (rotation.apply value.toNat q).1
            >>= fun _ => pure false)
      rw [left.rotated, right.rotated]
      exact (setRegisters flags).bind fun _ _ _ =>
        answering (writeOperand congruent _ target (Reference.Number.low rfl))
  | bit index source =>
      refine (readOperand congruent _ source).bind fun _ _ value => ?_
      obtain ⟨value, rfl, rfl⟩ := value
      let tested (w : Words) : Words :=
        w.setFlags (!value.getLsbD index.toNat) false true w.carry
      refine answering (onRegisters (g := tested) fun _ _ holds => ?_)
      rw [Reference.bit_toNat]
      dsimp only [tested]
      rw [holds.carry]
      exact holds.setFlags _ _ _ _
  | reset index target =>
      refine (readOperand congruent _ target).bind fun _ _ value => ?_
      obtain ⟨value, rfl, rfl⟩ := value
      exact answering (writeOperand congruent _ target (Reference.reset_toNat index value))
  | set index target =>
      refine (readOperand congruent _ target).bind fun _ _ value => ?_
      obtain ⟨value, rfl, rfl⟩ := value
      exact answering (writeOperand congruent _ target (Reference.set_toNat index value))

/-- What follows an opcode is fetched alike. -/
theorem fetchRest {opcode : Byte} {first : Instruction}
    (decoded : Chart.decode? opcode = some first) (address : Word)
    : Simulation (Core.Alike R) (fun rest rest' => Fetched (.ok rest) (.ok rest'))
        (Core.fetchRest bus first address.toNat) (Core.fetchRest other first address.toNat) := by
  rw [Reference.chart_decode?] at decoded
  rw [Core.fetchRest, Core.fetchRest]
  split at decoded
  case isTrue extended =>
      obtain rfl := Option.some.inj decoded
      rw [if_pos rfl, if_pos rfl]
      refine (readByte congruent address).bind fun _ _ second => Simulation.pure ?_
      obtain ⟨second, rfl, rfl⟩ := second
      rw [Reference.chart_decodeExtended]
      refine Fetched.ok 0 fun single => ?_
      exact absurd ((Reference.decodeExtended_length _).1.symm.trans single) (by decide)
  case isFalse other =>
      obtain ⟨operation, found, rfl⟩ := Option.map_eq_some_iff.mp decoded
      obtain ⟨base, bound, length⟩ := Reference.decode?_length found
      rw [if_neg base, if_neg base, length]
      split
      case isTrue single =>
          refine (readByte congruent address).bind fun _ _ value => Simulation.pure ?_
          obtain ⟨value, rfl, rfl⟩ := value
          have widened : (value.setWidth 16).toNat = value.toNat :=
            BitVec.toNat_setWidth_of_le (by decide)
          rw [← widened]
          exact Fetched.ok _ fun _ => widened ▸ value.isLt
      split
      case isTrue double =>
          refine (readByte congruent address).bind fun _ _ low => ?_
          rw [Reference.incrementWord_toNat]
          refine (readByte congruent (address + 1)).bind fun _ _ high => Simulation.pure ?_
          obtain ⟨low, rfl, rfl⟩ := low
          obtain ⟨high, rfl, rfl⟩ := high
          rw [Reference.joinSum_toNat]
          exact Fetched.ok _ fun single => absurd single (by omega)
      case isFalse =>
          exact Simulation.pure (Fetched.ok 0 fun single => absurd single (by omega))

/-- A fetch finds the same on both sides. -/
theorem fetch : Simulation (Core.Alike R) Fetched (Core.fetch bus) (Core.fetch other) := by
  refine getRegisters.bind fun r q same => ?_
  obtain ⟨w, left, right⟩ := same
  rw [left.pc, right.pc]
  refine (read congruent w.pc).bind fun x y answers => ?_
  -- The answers of the buses may differ above their low bytes, at which alone a fetch looks.
  have opcode : Byte.ofInt y = Byte.ofInt x := by
    apply BitVec.eq_of_toNat_eq
    have first := Byte.toNat_ofInt x
    have second := Byte.toNat_ofInt y
    omega
  rw [opcode]
  dsimp only
  cases decoded : Chart.decode? (Byte.ofInt x) with
  | none => exact Simulation.pure ⟨rfl, fun _ _ found => by cases found⟩
  | some first =>
      refine getCpu.bind fun c d same => ?_
      rw [same.2.1]
      -- However far the latch puts the counter back, it does so on both sides.
      generalize (if d.haltBug then (1 : Int) else 0) = skew
      have cleared : Simulation (Core.Alike R) Either
          (Core.onCpu fun cpu => { cpu with halted := false, stopped := false, haltBug := false })
          (Core.onCpu fun cpu => { cpu with halted := false, stopped := false, haltBug := false }) :=
        fun _ _ alike => ⟨trivial, { alike with halted := rfl, stopped := rfl, haltBug := rfl }⟩
      refine cleared.bind fun _ _ _ => ?_
      rw [Word.toNat_ofInt]
      refine (fetchRest congruent decoded _).bind fun rest rest' fetched => ?_
      obtain rfl := Except.ok.inj fetched.1
      rw [Word.toNat_ofInt]
      refine (jumpTo _).bind fun _ _ _ => ?_
      exact fun _ _ alike => ⟨fetched, { alike with lastInstruction := rfl }⟩

/-- An instruction is fetched and carried out alike. -/
theorem executeNext
    : Simulation (Core.Alike R) Eq (Core.executeNext bus) (Core.executeNext other) := by
  refine getCpu.bind fun c d before => ?_
  refine (fetch congruent).bind fun answer answer' fetched => ?_
  obtain ⟨rfl, found⟩ := fetched
  cases answer with
  | error fault => exact Simulation.pure rfl
  | ok fetched =>
      obtain ⟨instruction, immediate⟩ := fetched
      obtain ⟨operation, operand, rfl, rfl, fits⟩ := found instruction immediate rfl
      refine (execute congruent operation operand fits).bind fun taken _ same => ?_
      subst same
      refine getCpu.bind fun c' d' between => ?_
      -- Interrupts are switched on if that was pending before the instruction and still is.
      rw [before.2.2, between.2.2]
      have counted : Simulation (Core.Alike R) Either
          (Core.onCpu fun cpu => { cpu with instructionCount := cpu.instructionCount + 1 })
          (Core.onCpu fun cpu => { cpu with instructionCount := cpu.instructionCount + 1 }) :=
        fun _ _ alike => ⟨trivial,
          { alike with instructionCount := congrArg (· + 1) alike.instructionCount }⟩
      have enabled : Simulation (Core.Alike R) Either
          (Core.onCpu (fun cpu => { cpu with eiPending := false })
            >>= fun _ => Core.onInterrupts (·.setMaster true))
          (Core.onCpu (fun cpu => { cpu with eiPending := false })
            >>= fun _ => Core.onInterrupts (·.setMaster true)) :=
        fun _ _ alike => ⟨trivial,
          { alike with eiPending := rfl, around := congruent.setMaster alike.around true }⟩
      split
      · exact enabled.bind fun _ _ _ => answering counted
      · exact answering counted

/-- A processor that wakes returns to the same address. -/
theorem wake : Simulation (Core.Alike R) (Both 16) Core.wake Core.wake := by
  refine getCpu.bind fun c d before => ?_
  obtain ⟨⟨w, left, right⟩, skewed, pending⟩ := before
  have calmed : Simulation (Core.Alike R) Either
      (Core.onCpu (fun cpu =>
          { cpu with halted := false, stopped := false, eiPending := false, haltBug := false })
        >>= fun _ => Core.onInterrupts (·.setMaster false))
      (Core.onCpu (fun cpu =>
          { cpu with halted := false, stopped := false, eiPending := false, haltBug := false })
        >>= fun _ => Core.onInterrupts (·.setMaster false)) :=
    fun _ _ alike => ⟨trivial,
      { alike with
        halted := rfl, stopped := rfl, eiPending := rfl, haltBug := rfl
        around := congruent.setMaster alike.around false }⟩
  refine calmed.bind fun _ _ _ => Simulation.pure ?_
  rw [left.pc, right.pc, skewed]
  split
  · exact ⟨_, Reference.decrementWord_toNat w.pc, Reference.decrementWord_toNat w.pc⟩
  · exact ⟨w.pc, rfl, rfl⟩

/-- A source is served alike. -/
theorem dispatch (source : Source)
    : Simulation (Core.Alike R) Eq (Core.dispatch bus source) (Core.dispatch other source) := by
  have acknowledged : Simulation (Core.Alike R) Either
      (Core.onInterrupts (·.acknowledge source)) (Core.onInterrupts (·.acknowledge source)) :=
    fun _ _ alike => ⟨trivial, { alike with around := congruent.acknowledge alike.around source }⟩
  have vector : source.vector = ((Word.ofInt source.vector).toNat : Int) := by
    cases source <;> rfl
  refine (wake congruent).bind fun _ _ address => ?_
  obtain ⟨address, rfl, rfl⟩ := address
  refine (push congruent address).bind fun _ _ _ => acknowledged.bind fun _ _ _ => ?_
  rw [vector]
  refine (jumpTo _).bind fun _ _ _ => ?_
  exact fun _ _ alike => ⟨rfl, { alike with lastInterrupt := rfl }⟩

end

end Congruence

/-- On buses that answer alike, processors in the same state take the same step, whatever they have
done before it. Their registers are in range on both sides of it.
-/
theorem Core.Alike.step {bus : Bus μ} {other : Bus ν} (congruent : bus.Congruent R other)
    {c : Core μ} {d : Core ν} (alike : Core.Alike R c.forgotten d.forgotten)
    : ((Core.step bus).run c).1 = ((Core.step other).run d).1
        ∧ Core.Alike R ((Core.step bus).run c).2 ((Core.step other).run d).2 := by
  have master : c.interrupts.master = d.interrupts.master := congruent.master alike.around
  have pending : c.interrupts.pending = d.interrupts.pending := congruent.pending alike.around
  have halted : c.cpu.halted = d.cpu.halted := alike.halted
  have stopped : c.cpu.stopped = d.cpu.stopped := alike.stopped
  have idles : c.idles = d.idles := by
    simp only [Core.idles, Interrupts.hasPending, pending, halted, stopped]
  have interrupted : c.interrupted = d.interrupted := by
    simp only [Core.interrupted, Interrupts.hasPending, pending, master]
  have highest : c.interrupts.highest? = d.interrupts.highest? := by
    simp only [Interrupts.highest?, pending]
  cases waits : d.idles with
  | true =>
      rw [Core.run_step_idles bus (idles.trans waits), Core.run_step_idles other waits]
      exact ⟨rfl, alike⟩
  | false =>
      cases served : d.interrupted with
      | false =>
          rw [Core.run_step_executes bus (idles.trans waits) (interrupted.trans served),
            Core.run_step_executes other waits served]
          exact Congruence.executeNext congruent _ _ alike
      | true =>
          obtain ⟨enabled, up⟩ := Bool.and_eq_true_iff.mp served
          obtain ⟨source, first⟩ := Interrupts.exists_highest? up
          rw [Core.run_step_dispatches bus (master.trans enabled) (highest.trans first),
            Core.run_step_dispatches other enabled first]
          exact (Congruence.dispatch congruent source _ _ alike).imp_left (congrArg Except.ok)

end Handheld.Cpu
