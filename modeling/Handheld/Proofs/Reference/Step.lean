import Handheld.Proofs.Reference.Agreement

/-! One step of the processor is one step of the reference processor.
Both fetch the same operation from the same bytes, and the cost that the processor looks up is the
time that the accesses of the reference processor take.
-/

namespace Handheld.Reference

open Cpu (Core Recorded FlatRam Registers Chart.decode? Chart.decodeExtended)

-----------------------------------------------------------------------------------------
-- Time
-----------------------------------------------------------------------------------------

/-- The accesses of an operation, and what else it does, take the cycles of its instruction. -/
theorem cost_execute (operation : Operation) (operand : Word) {r : Registers} {m : Machine}
    (holds : Holds r m.words) (fetched : m.ticks = operation.instruction.length)
    : ((execute operation operand).run m).2.cycles
      = operation.instruction.cost (operation.instruction.taken r.flags) := by
  have test := holds.test
  obtain ⟨words, halted, stopped, haltBug, eiPending, ime, enable, requests, ram, writes, ticks⟩ :=
    m
  obtain rfl := fetched
  cases operation with
  | move target source => cases target <;> cases source <;> rfl
  | moveByte target => cases target <;> rfl
  | loadA source => cases source <;> rfl
  | storeA target => cases target <;> rfl
  | inc target => cases target <;> rfl
  | dec target => cases target <;> rfl
  | arithmetic operation source => cases source <;> rfl
  | rotateA right through => cases right <;> cases through <;> rfl
  | rotate rotation target => cases target <;> rfl
  | bit index source => cases source <;> rfl
  | reset index target => cases target <;> rfl
  | set index target => cases target <;> rfl
  | halt =>
      change 4 * Machine.ticks (if _ then _ else _) = 4
      split <;> rfl
  | jump condition | jumpRelative condition | call condition | ret condition =>
      simp only [Operation.instruction, Cpu.Instruction.taken, test]
      cases condition with
      | none => rfl
      | some condition =>
          change Machine.cycles
            ((if words.holds (some condition) then _ else _ : StateM Machine Unit).run _).2 = _
          cases words.holds (some condition) <;> rfl
  | _ => rfl

-----------------------------------------------------------------------------------------
-- Fetching
-----------------------------------------------------------------------------------------

/-- What follows an opcode in flat memory, as an instruction and its immediate value. -/
def restOf (ram : FlatRam) (first : Cpu.Instruction) (address : Int) : Cpu.Instruction × Int :=
  if first = .extend then
    (Chart.decodeExtended (ram.get address), 0)
  else if first.length = 2 then
    (first, (ram.get address).toNat)
  else if first.length = 3 then
    (first, (ram.get ((address + 1) % 65536)).toNat * 256 + (ram.get address).toNat)
  else
    (first, 0)

/-- Flat memory gives the rest of an instruction and stays as it is. -/
theorem run_fetchRest (first : Cpu.Instruction) (address : Int) (core : Core (Recorded FlatRam))
    : (Core.fetchRest flat first address).run core
      = (restOf core.memory.memory first address, core) := by
  rw [Core.fetchRest, restOf]
  split
  · rw [StateT.run_bind, run_readByte]
    change ((Chart.decodeExtended (Byte.ofInt (core.memory.memory.get address).value), (0 : Int)),
      core) = _
    rw [Byte.ofInt_value]
  split
  · rw [StateT.run_bind, run_readByte]
    rfl
  split
  · simp only [StateT.run_bind, run_readByte]
    rfl
  · rfl

/-- How far a fetch stays behind after a `HALT` that failed to wait. -/
def skew (core : Core (Recorded FlatRam)) : Int :=
  if core.cpu.haltBug then 1 else 0

/-- The processor behind the fetch of an instruction. -/
def fetched (core : Core (Recorded FlatRam)) (instruction : Cpu.Instruction)
    : Core (Recorded FlatRam) :=
  { core with
    cpu.halted := false
    cpu.stopped := false
    cpu.haltBug := false
    cpu.registers.pc := (core.cpu.registers.pc + instruction.length - skew core) % 65536
    cpu.lastInstruction := some instruction }

/-- The opcode at the program counter, as it is read from flat memory. -/
theorem run_readOpcode (core : Core (Recorded FlatRam))
    : (Core.read flat core.cpu.registers.pc).run core
      = ((core.memory.memory.get core.cpu.registers.pc).value, core) := rfl

theorem run_getRegisters (core : Core (Recorded FlatRam))
    : Core.getRegisters.run core = (core.cpu.registers, core) := rfl

/-- A fetch from flat memory gives an instruction with its immediate value. -/
theorem run_fetch {core : Core (Recorded FlatRam)} {first : Cpu.Instruction}
    (decoded : Chart.decode? (core.memory.memory.get core.cpu.registers.pc) = some first)
    : (Core.fetch flat).run core
      = (.ok (restOf core.memory.memory first ((core.cpu.registers.pc + 1 - skew core) % 65536)),
          fetched core (restOf core.memory.memory first
            ((core.cpu.registers.pc + 1 - skew core) % 65536)).1) := by
  have cpu : Core.getCpu.run core = (core.cpu, core) := rfl
  rw [Core.fetch, run_bind_of (run_getRegisters core), run_bind_of (run_readOpcode core),
    Byte.ofInt_value]
  dsimp only
  rw [decoded]
  dsimp only
  rw [run_bind_of cpu]
  refine (run_bind_of rfl).trans ?_
  rw [run_bind_of (run_fetchRest _ _ _)]
  rfl

/-- A machine that has fetched some bytes. -/
def Machine.advanced (m : Machine) (bytes : Nat) : Machine :=
  { m with words.pc := m.words.pc + BitVec.ofNat 16 bytes, ticks := m.ticks + bytes }

/-- The machine at the beginning of a step. -/
def Machine.started (m : Machine) : Machine :=
  { m with halted := false, stopped := false, ticks := 0 }

theorem run_fetchByte (m : Machine)
    : fetch.run m = (m.ram.get m.words.pc.toNat, m.advanced 1) := rfl

theorem Machine.advanced_advanced (m : Machine) (first second : Nat)
    : (m.advanced first).advanced second = m.advanced (first + second) := by
  simp only [Machine.advanced, BitVec.ofNat_add, BitVec.add_assoc, Nat.add_assoc]

/-- The operand in the bytes at an address. -/
def operandOf (ram : FlatRam) (address : Word) : Nat → Word
  | 0 => 0
  | 1 => (ram.get address.toNat).setWidth 16
  | _ => ram.get (address + 1).toNat ++ ram.get address.toNat

/-- The operand of an operation takes no more than two bytes. -/
theorem run_fetchOperand (m : Machine) {bytes : Nat} (bound : bytes ≤ 2)
    : (fetchOperand bytes).run m = (operandOf m.ram m.words.pc bytes, m.advanced bytes) := by
  match bytes, bound with
  | 0, _ =>
    have still : m.advanced 0 = m := by simp [Machine.advanced]
    rw [still]
    rfl
  | 1, _ => rfl
  | 2, _ =>
    refine (run_bind_of (run_fetchByte m)).trans ?_
    rw [run_bind_of (run_fetchByte _), Machine.advanced_advanced]
    rfl

/-- The processor finds the same operand behind an opcode of the base page. -/
theorem restOf_operand (ram : FlatRam) (address : Word) {operation : Operation}
    (base : operation.instruction ≠ .extend) (bound : operation.operandBytes ≤ 2)
    (length : operation.instruction.length = 1 + operation.operandBytes)
    : restOf ram operation.instruction address.toNat
      = (operation.instruction, ((operandOf ram address operation.operandBytes).toNat : Int)) := by
  rw [restOf, if_neg base, length]
  match operation.operandBytes, bound with
  | 0, _ => rfl
  | 1, _ =>
    have widened : ((ram.get address.toNat).setWidth 16).toNat = (ram.get address.toNat).toNat :=
      BitVec.toNat_setWidth_of_le (by decide)
    rw [if_pos rfl, operandOf, widened]
  | 2, _ =>
    rw [if_neg (by decide), if_pos rfl, incrementWord_toNat, joinSum_toNat]
    rfl

/-- The number that the program counter shows behind some bytes. -/
theorem advanced_toNat (address : Word) (bytes : Nat)
    : ((address.toNat : Int) + bytes) % 65536 = ((address + BitVec.ofNat 16 bytes).toNat : Int) := by
  rw [BitVec.toNat_add, BitVec.toNat_ofNat]
  omega

/-- Behind a fetch the processor is in the state of a machine that has fetched as many bytes. -/
theorem Shows.fetched {core : Core (Recorded FlatRam)} {m : Machine} (shows : Shows core m)
    (even : core.cpu.haltBug = false) (instruction : Cpu.Instruction)
    : Shows (fetched core instruction) (m.started.advanced instruction.length) := by
  have pc : (core.cpu.registers.pc + instruction.length - skew core) % 65536
      = ((m.words.pc + BitVec.ofNat 16 instruction.length).toNat : Int) := by
    rw [skew, even, shows.registers.pc, ← advanced_toNat]
    simp
  exact { shows with
    registers := { shows.registers with pc := pc }
    halted := rfl
    stopped := rfl
    haltBug := even.symm.trans shows.haltBug }

/-- The reference machine finds what its opcode asks for. -/
theorem run_next? (m : Machine)
    : next?.run m
      = if m.ram.get m.words.pc.toNat = extension then
          (some (decodeExtended (m.ram.get (m.words.pc + 1).toNat)), m.advanced 2)
        else
          (decode? (m.ram.get m.words.pc.toNat), m.advanced 1) := by
  rw [next?, run_bind_of (run_fetchByte m)]
  split
  · rw [run_bind_of (run_fetchByte _), Machine.advanced_advanced]
    rfl
  · rfl

theorem run_next?_started (m : Machine)
    : next?.run m.started
      = if m.ram.get m.words.pc.toNat = extension then
          (some (decodeExtended (m.ram.get (m.words.pc + 1).toNat)), m.started.advanced 2)
        else
          (decode? (m.ram.get m.words.pc.toNat), m.started.advanced 1) :=
  run_next? m.started

/-- Both processors fetch the same operation with the same operand, and have then done nothing
else.
-/
theorem Shows.fetch {core : Core (Recorded FlatRam)} {m : Machine} (shows : Shows core m)
    (even : core.cpu.haltBug = false) {operation : Operation}
    (found : (next?.run m.started).1 = some operation)
    : ∃ operand,
        (Core.fetch flat).run core
          = (.ok (operation.instruction, (operand.toNat : Int)),
              Reference.fetched core operation.instruction)
        ∧ (fetchOperand operation.operandBytes).run (next?.run m.started).2
          = (operand, m.started.advanced operation.instruction.length)
        ∧ Fits operand operation := by
  have opcode : core.memory.memory.get core.cpu.registers.pc = m.ram.get m.words.pc.toNat := by
    rw [shows.ram, shows.registers.pc]
  have second : (core.cpu.registers.pc + 1 - skew core) % 65536
      = ((m.words.pc + 1).toNat : Int) := by
    rw [skew, even, shows.registers.pc, ← incrementWord_toNat]
    simp
  by_cases extended : m.ram.get m.words.pc.toNat = extension
  · have decoded : Chart.decode? (core.memory.memory.get core.cpu.registers.pc) = some .extend := by
      rw [opcode, chart_decode?, if_pos extended]
    rw [run_next?_started, if_pos extended] at found ⊢
    obtain rfl := Option.some.inj found
    obtain ⟨none, two⟩ := decodeExtended_length (m.ram.get (m.words.pc + 1).toNat)
    refine ⟨0, ?_, ?_, ?_⟩
    · rw [run_fetch decoded, second, restOf, if_pos rfl, chart_decodeExtended, shows.ram]
      rfl
    · rw [none, two]
      rfl
    · intro single
      exact absurd (none.symm.trans single) (by decide)
  · have decoded := (chart_decode? (m.ram.get m.words.pc.toNat)).trans (if_neg extended)
    rw [run_next?_started, if_neg extended] at found ⊢
    dsimp only at found
    rw [found, Option.map_some] at decoded
    obtain ⟨base, bound, length⟩ := decode?_length found
    refine ⟨operandOf m.ram (m.words.pc + 1) operation.operandBytes, ?_, ?_, ?_⟩
    · rw [run_fetch (opcode ▸ decoded), second, shows.ram, restOf_operand _ _ base bound length]
    · rw [run_fetchOperand _ bound, length, Machine.advanced_advanced]
      rfl
    · intro single
      rw [single, operandOf, BitVec.toNat_setWidth_of_le (by decide)]
      exact (m.ram.get (m.words.pc + 1).toNat).isLt

-----------------------------------------------------------------------------------------
-- One step
-----------------------------------------------------------------------------------------

/-- Of all operations only the one that switches the interrupts off takes back that they are to go
on.
-/
theorem eiPending_execute (operation : Operation) (operand : Word) {m : Machine}
    (pending : m.eiPending = true)
    : ((execute operation operand).run m).2.eiPending = decide (operation ≠ .di) := by
  obtain ⟨words, halted, stopped, haltBug, eiPending, ime, enable, requests, ram, writes, ticks⟩ :=
    m
  obtain rfl : eiPending = true := pending
  cases operation with
  | move target source => cases target <;> cases source <;> rfl
  | moveByte target => cases target <;> rfl
  | loadA source => cases source <;> rfl
  | storeA target => cases target <;> rfl
  | inc target => cases target <;> rfl
  | dec target => cases target <;> rfl
  | arithmetic operation source => cases source <;> rfl
  | rotateA right through => cases right <;> cases through <;> rfl
  | rotate rotation target => cases target <;> rfl
  | bit index source => cases source <;> rfl
  | reset index target => cases target <;> rfl
  | set index target => cases target <;> rfl
  | halt =>
      change Machine.eiPending (if _ then _ else _) = true
      split <;> rfl
  | jump condition | jumpRelative condition | call condition =>
      change Machine.eiPending
        ((if words.holds condition then _ else _ : StateM Machine Unit).run _).2 = true
      cases words.holds condition <;> rfl
  | ret condition =>
      cases condition with
      | none => rfl
      | some condition =>
          change Machine.eiPending
            ((if words.holds (some condition) then _ else _ : StateM Machine Unit).run _).2 = true
          cases words.holds (some condition) <;> rfl
  | _ => rfl

/-- A machine behind an operation. -/
def Machine.completed (m : Machine) (pending : Bool) (operation : Operation) : Machine :=
  if pending ∧ operation ≠ .di then { m with eiPending := false, ime := true } else m

theorem Machine.cycles_completed (m : Machine) (pending : Bool) (operation : Operation)
    : (m.completed pending operation).cycles = m.cycles := by
  rw [Machine.completed]
  split <;> rfl

theorem run_complete {operation : Operation} {operand : Word} {m after : Machine}
    (fetched : (fetchOperand operation.operandBytes).run m = (operand, after))
    : ((complete operation).run m).2
      = ((execute operation operand).run after).2.completed m.eiPending operation := by
  have machine : (get : StateM Machine Machine).run m = (m, m) := rfl
  rw [complete, run_bind_of machine, run_bind_of fetched]
  refine (congrArg Prod.snd (run_bind_of (Prod.ext rfl rfl))).trans ?_
  rw [Machine.completed]
  split <;> rfl

/-- A master switch that was to go on does so on both sides. -/
theorem Shows.completed {core : Core (Recorded FlatRam)} {m : Machine} (shows : Shows core m)
    {pending : Bool} {operation : Operation}
    (kept : pending = true → m.eiPending = decide (operation ≠ .di))
    : Shows (core.completed pending) (m.completed pending operation) := by
  by_cases enabling : pending = true ∧ operation ≠ .di
  · obtain ⟨rfl, other⟩ := enabling
    have switch : core.cpu.eiPending = true := by
      rw [shows.eiPending, kept rfl, decide_eq_true other]
    rw [Core.completed_enabling switch, Machine.completed, if_pos ⟨rfl, other⟩]
    exact { shows with eiPending := rfl, ime := rfl }
  · have idle : (pending && core.cpu.eiPending) = false := by
      cases pending with
      | false => rfl
      | true =>
          have takenBack : operation = .di := by simpa using enabling
          rw [shows.eiPending, kept rfl, takenBack]
          rfl
    rw [Core.completed_plain idle, Machine.completed, if_neg enabling]
    exact { shows with }

/-- A step that executes a defined instruction is a step of the reference machine. It costs what
the accesses of the machine take.
-/
theorem Shows.step {core : Core (Recorded FlatRam)} {m machine : Machine} (shows : Shows core m)
    (even : core.cpu.haltBug = false) (awake : core.idles = false)
    (undisturbed : core.interrupted = false) (stepped : step? m = some machine)
    : ∃ after, (Core.step flat).run core = (.ok machine.cycles, after) ∧ Shows after machine := by
  obtain ⟨operation, found, rfl⟩ := Option.map_eq_some_iff.mp stepped
  have forgotten : Shows core.forgotten m := { shows with }
  obtain ⟨operand, fetched, located, fits⟩ := forgotten.fetch even found
  have between := forgotten.fetched even operation.instruction
  have executed := (simulation_execute operation operand fits _ _ between).2
  have cost := cost_execute operation operand between.registers (Nat.zero_add _)
  have latched : (next?.run m.started).2.eiPending = m.eiPending := by
    rw [run_next?]
    split <;> rfl
  rw [Core.run_step_executes flat awake undisturbed, Core.run_executeNext fetched, ← cost]
  change ∃ after, _ = (Except.ok ((complete operation).run (next?.run m.started).2).2.cycles, after)
    ∧ Shows after ((complete operation).run (next?.run m.started).2).2
  rw [run_complete located, latched, Machine.cycles_completed, ← shows.eiPending]
  exact ⟨_, rfl, executed.completed fun pending =>
    eiPending_execute operation operand (shows.eiPending.symm.trans pending)⟩

/-- The reference machine in the state of a processor. -/
def Machine.ofCpu (cpu : Cpu) (interrupts : Interrupts) (ram : FlatRam) : Machine where
  words := Words.ofRegisters cpu.registers
  halted := cpu.halted
  stopped := cpu.stopped
  haltBug := cpu.haltBug
  eiPending := cpu.eiPending
  ime := interrupts.master
  enable := interrupts.enable
  requests := interrupts.requests
  ram := ram
  writes := []
  ticks := 0

/-- Registers in range are what the words of the machine hold. -/
theorem shows_ofCpu {cpu : Cpu} (inRange : cpu.registers.InRange) (interrupts : Interrupts)
    (ram : FlatRam)
    : Shows ⟨cpu, interrupts, ⟨ram, []⟩⟩ (Machine.ofCpu cpu interrupts ram) := by
  constructor
  case registers => exact Holds.ofRegisters inRange
  all_goals rfl

/-- The reference machine has a step just if an operation is defined for its opcode. -/
theorem step?_isSome_iff (m : Machine)
    : (step? m).isSome ↔ m.ram.get m.words.pc.toNat ∉ undefinedOpcodes := by
  have found : (step? m).isSome = (next?.run m.started).1.isSome := Option.isSome_map
  rw [found, run_next?_started, ← decode?_isSome_iff]
  split
  case isTrue extended => exact ⟨fun _ => .inl extended, fun _ => rfl⟩
  case isFalse other => exact (or_iff_right other).symm

/-- Over flat memory the processor executes every defined instruction as the reference machine
does. Registers, flags, latches, memory and the list of writes are the same behind it, and so is
the time; the low nibble of the flag register is zero.
-/
theorem step_refines {cpu : Cpu} (interrupts : Interrupts) (ram : FlatRam)
    (inRange : cpu.registers.InRange) (even : cpu.haltBug = false)
    (awake : (Core.mk cpu interrupts ram).idles = false)
    (undisturbed : (Core.mk cpu interrupts ram).interrupted = false)
    (defined : ram.get cpu.registers.pc ∉ undefinedOpcodes)
    : ∃ machine after,
        step? (Machine.ofCpu cpu interrupts ram) = some machine
        ∧ (Core.step flat).run ⟨cpu, interrupts, ⟨ram, []⟩⟩ = (.ok machine.cycles, after)
        ∧ Shows after machine
        ∧ after.cpu.registers.f = machine.words.f.toNat ∧ machine.words.f &&& 0x0F = 0 := by
  have shows := shows_ofCpu inRange interrupts ram
  have opcode : (Machine.ofCpu cpu interrupts ram).ram.get
      (Machine.ofCpu cpu interrupts ram).words.pc.toNat = ram.get cpu.registers.pc := by
    rw [← shows.registers.pc]
    rfl
  obtain ⟨machine, stepped⟩ := Option.isSome_iff_exists.mp
    ((step?_isSome_iff _).mpr (opcode ▸ defined))
  obtain ⟨after, run, shown⟩ := shows.step even awake undisturbed stepped
  refine ⟨machine, after, stepped, run, shown, ?_, ?_⟩
  · rw [Registers.f, flags_toInt, ← shown.registers.f]
  · rw [shown.registers.f]
    exact flagByte_lowNibble _ _ _ _

/-- An extended operation at the last address, whose second byte lies at the first one. -/
theorem step_refines_wrapping
    : let cpu : Cpu := { Cpu.powerOn with registers.pc := 0xFFFF }
      let ram : FlatRam := FlatRam.zeros.set 0xFFFF 0xCB
      ∃ machine after,
        step? (Machine.ofCpu cpu {} ram) = some machine
        ∧ (Core.step flat).run ⟨cpu, {}, ⟨ram, []⟩⟩ = (.ok machine.cycles, after)
        ∧ Shows after machine
        ∧ after.cpu.registers.f = machine.words.f.toNat ∧ machine.words.f &&& 0x0F = 0 := by
  have opcode : (FlatRam.zeros.set 0xFFFF 0xCB).get 0xFFFF = 0xCB := by
    exact Vector.getElem_set_self (Address.ofInt 0xFFFF).isLt
  exact step_refines {} (FlatRam.zeros.set 0xFFFF 0xCB)
    { Registers.powerOn_inRange with pc := by constructor <;> decide } rfl rfl rfl
    (by rw [opcode]; decide)

end Handheld.Reference
