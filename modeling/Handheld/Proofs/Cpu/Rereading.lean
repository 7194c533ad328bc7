import Handheld.Proofs.Cpu.Chaining
import Handheld.Proofs.Cpu.Recording
import Handheld.Proofs.Reference.Step

/-! What a `HALT` that failed to wait does to the instruction behind it.
The opcode is read twice, and the program counter ends one short. The same happens without that
latch one byte before, if the opcode stands there as well. Nothing tells the two apart but that byte.
-/

namespace Handheld.Cpu

open Reference (flat)

-----------------------------------------------------------------------------------------
-- Memories that differ in one byte
-----------------------------------------------------------------------------------------

/-- Two memories hold the same bytes, but for one address. -/
def FlatRam.SameBut (hole : Int) (left right : FlatRam) : Prop :=
  ∀ address, address % 65536 ≠ hole % 65536 → left.get address = right.get address

namespace FlatRam

variable {left right : FlatRam} {hole : Int}

theorem sameBut_set (ram : FlatRam) (hole : Int) (value : Byte)
    : ram.SameBut hole (ram.set hole value) := by
  intro address apart
  have other : Address.ofInt hole ≠ Address.ofInt address := by
    rw [ne_eq, Address.ofInt_eq_iff]
    exact fun same => apart same.symm
  rw [get_set, if_neg other]

theorem SameBut.set (same : left.SameBut hole right) (address : Int) (value : Byte)
    : (left.set address value).SameBut hole (right.set address value) := by
  intro other apart
  rw [get_set, get_set, same other apart]

end FlatRam

/-- The access reads the byte at an address. -/
def Access.Reads (hole : Int) : Access → Prop
  | .read address => address % 65536 = hole % 65536
  | .write _ _ => False

namespace Core

/-- Two processors are in the same state and have written the same, and their memories differ in no
more than one byte.
-/
structure SameBut (hole : Int) (c d : Core (Recorded FlatRam)) : Prop where
  cpu : c.cpu = d.cpu
  interrupts : c.interrupts = d.interrupts
  writes : c.memory.writes = d.memory.writes
  ram : c.memory.memory.SameBut hole d.memory.memory

/-- The same about what surrounds them, where a monitor is on the left. -/
structure Opposite (hole : Int) (s : Interrupts × Monitored (Recorded FlatRam))
    (t : Interrupts × Recorded FlatRam)
    : Prop where
  interrupts : s.1 = t.1
  writes : s.2.memory.writes = t.2.writes
  ram : s.2.memory.memory.SameBut hole t.2.memory

/-- Only a read of that byte can tell them apart. -/
theorem flat_opposite (hole : Int)
    : flat.monitored.MirrorsUntil (fun s => ∃ access ∈ s.2.accesses, access.Reads hole)
        (Opposite hole) flat where
  traps := flat.monitored_traps _
  master opposite := congrArg Interrupts.master opposite.interrupts
  pending opposite := congrArg Interrupts.pending opposite.interrupts
  setMaster opposite enabled :=
    { opposite with interrupts := congrArg (·.setMaster enabled) opposite.interrupts }
  read := by
    rintro ⟨i, m⟩ ⟨j, n⟩ opposite address
    by_cases here : address % 65536 = hole % 65536
    · exact .inl ⟨.read address, List.mem_cons_self, here⟩
    · exact .inr ⟨congrArg Byte.value (opposite.ram address here), { opposite with }⟩
  write := by
    rintro ⟨i, m⟩ ⟨j, n⟩ opposite address value
    exact .inr {
      interrupts := opposite.interrupts
      writes := congrArg (_ :: ·) opposite.writes
      ram := opposite.ram.set address (Byte.ofInt value) }

variable {c d : Core (Recorded FlatRam)} {hole : Int}

/-- An instruction does the same on both sides, if none of its reads is told apart. -/
theorem SameBut.execute (same : c.SameBut hole d) (instruction : Instruction) (immediate : Int)
    (apart
      : ∀ access ∈
          ((execute flat.monitored instruction immediate).run c.monitored).2.memory.accesses,
        ¬access.Reads hole)
    : ((execute flat instruction immediate).run c).2.SameBut hole
        ((execute flat instruction immediate).run d).2 := by
  have records : flat.Records fun _ _ => True :=
    ⟨fun _ _ => trivial, fun _ _ => trivial, fun _ _ _ => trivial⟩
  have plain : c.monitored.Mirrored (fun seen plain => Monitored.Like seen plain ∧ True) c :=
    ⟨rfl, ⟨rfl, rfl⟩, trivial⟩
  have start : c.monitored.Mirrored (Opposite hole) d :=
    ⟨same.cpu, same.interrupts, same.writes, same.ram⟩
  -- The monitor is beside the left side, and in its place beside the right one.
  obtain ⟨-, left⟩ := ((Mirroring.execute records.mirrors.always instruction immediate).mirrors
    plain.ahead).resolve_left id
  obtain ⟨-, right⟩ := ((Mirroring.execute (flat_opposite hole) instruction immediate).mirrors
    start.ahead).resolve_left fun ⟨access, seen, here⟩ => apart access seen here
  obtain ⟨interrupts, memory⟩ := left.mirrored.around.1
  exact {
    cpu := left.mirrored.cpu.symm.trans right.mirrored.cpu
    interrupts := interrupts.symm.trans right.around.interrupts
    writes := (congrArg Recorded.writes memory).symm.trans right.around.writes
    ram := by
      have ram := right.around.ram
      dsimp only at memory ram
      rwa [memory] at ram }

theorem SameBut.completed (same : c.SameBut hole d) (pending : Bool)
    : (c.completed pending).SameBut hole (d.completed pending) := by
  obtain ⟨cpu, interrupts, memory⟩ := c
  obtain ⟨cpu', interrupts', memory'⟩ := d
  obtain ⟨rfl, rfl, writes, ram⟩ := same
  rw [Core.completed, Core.completed]
  dsimp only
  split <;> exact ⟨rfl, rfl, writes, ram⟩

-----------------------------------------------------------------------------------------
-- Fetching
-----------------------------------------------------------------------------------------

/-- The byte at the program counter, and the one behind it. -/
def upcoming (core : Core (Recorded FlatRam)) : Byte × Byte :=
  (core.memory.memory.get core.cpu.registers.pc, core.memory.memory.get (core.cpu.registers.pc + 1))

/-- Without the latch, one byte before, with the opcode there as well. -/
def rewound (core : Core (Recorded FlatRam)) : Core (Recorded FlatRam) :=
  { core with
    cpu.haltBug := false
    cpu.registers.pc := (core.cpu.registers.pc - 1) % 65536
    memory.memory := core.memory.memory.set (core.cpu.registers.pc - 1) core.upcoming.1 }

end Core

/-- What is fetched behind an opcode that is read once more in place of the byte behind it. -/
def Instruction.reread (first : Instruction) (opcode next : Byte) : Instruction × Int :=
  if first = .extend then (Chart.decodeExtended opcode, 0)
  else if first.length = 2 then (first, opcode.value)
  else if first.length = 3 then (first, next.value * 256 + opcode.value)
  else (first, 0)

theorem Instruction.restOf_eq_reread {ram : FlatRam} {address : Int} {opcode next : Byte}
    (first : Instruction) (here : ram.get address = opcode) (behind : ram.get (address + 1) = next)
    : Reference.restOf ram first (address % 65536) = first.reread opcode next := by
  have wrapped : ram.get ((address % 65536 + 1) % 65536) = next := by
    rw [Int.emod_add_emod, FlatRam.get_emod, behind]
  rw [Reference.restOf, reread, FlatRam.get_emod, here, wrapped]
  rfl

namespace Core

variable {core : Core (Recorded FlatRam)} {first : Instruction}

/-- With the latch, the byte behind the opcode is the opcode. -/
theorem run_fetch_latched (bug : core.cpu.haltBug = true)
    (decoded : Chart.decode? core.upcoming.1 = some first)
    : (fetch flat).run core.forgotten
      = (.ok (first.reread core.upcoming.1 core.upcoming.2),
          Reference.fetched core.forgotten (first.reread core.upcoming.1 core.upcoming.2).1) := by
  have found : (fetch flat).run core.forgotten = _ := Reference.run_fetch decoded
  have skew : Reference.skew core.forgotten = 1 := if_pos bug
  rw [skew, Int.add_sub_cancel] at found
  rw [found, first.restOf_eq_reread rfl rfl]
  rfl

/-- One byte before, the byte behind the opcode is the one that the latch has kept there. -/
theorem run_fetch_rewound (decoded : Chart.decode? core.upcoming.1 = some first)
    : (fetch flat).run core.rewound.forgotten
      = (.ok (first.reread core.upcoming.1 core.upcoming.2),
          Reference.fetched core.rewound.forgotten
            (first.reread core.upcoming.1 core.upcoming.2).1) := by
  have same := core.memory.memory.sameBut_set (core.cpu.registers.pc - 1) core.upcoming.1
  have opcode : core.rewound.memory.memory.get core.rewound.cpu.registers.pc = core.upcoming.1 := by
    rw [rewound, FlatRam.get_emod, FlatRam.get_set, if_pos rfl]
  have here : core.rewound.memory.memory.get core.cpu.registers.pc = core.upcoming.1 :=
    (same _ (by omega)).symm
  have behind : core.rewound.memory.memory.get (core.cpu.registers.pc + 1) = core.upcoming.2 :=
    (same _ (by omega)).symm
  have found : (fetch flat).run core.rewound.forgotten = _ :=
    Reference.run_fetch (opcode ▸ decoded)
  have address : (core.rewound.forgotten.cpu.registers.pc + 1
        - Reference.skew core.rewound.forgotten) % 65536
      = core.cpu.registers.pc % 65536 := by
    have skew : Reference.skew core.rewound.forgotten = 0 := rfl
    have pc : core.rewound.forgotten.cpu.registers.pc = (core.cpu.registers.pc - 1) % 65536 := rfl
    omega
  rw [address] at found
  rw [found]
  have rest : Reference.restOf core.rewound.forgotten.memory.memory first
      (core.cpu.registers.pc % 65536) = _ := first.restOf_eq_reread here behind
  rw [rest]

/-- Behind both fetches the processor is in the same state. -/
theorem fetched_sameBut (bug : core.cpu.haltBug = true) (instruction : Instruction)
    : (Reference.fetched core.forgotten instruction).SameBut (core.cpu.registers.pc - 1)
        (Reference.fetched core.rewound.forgotten instruction) where
  cpu := by
    have short
        : (core.cpu.registers.pc + instruction.length - Reference.skew core.forgotten) % 65536
          = ((core.cpu.registers.pc - 1) % 65536 + instruction.length - 0) % 65536 := by
      have skew : Reference.skew core.forgotten = 1 := if_pos bug
      omega
    exact congrArg (fun pc =>
      { core.forgotten.cpu with
        halted := false, stopped := false, haltBug := false
        registers.pc := pc
        lastInstruction := some instruction }) short
  interrupts := rfl
  writes := rfl
  ram := core.memory.memory.sameBut_set _ _

-----------------------------------------------------------------------------------------
-- The whole step
-----------------------------------------------------------------------------------------

/-- What the next step hands to the bus besides the fetch of its instruction, the latest first. -/
def dataAccesses {μ : Type} (bus : Bus μ) (core : Core μ) : List Access :=
  match (fetch bus).run core.forgotten with
  | (.ok (instruction, immediate), fetched) =>
    ((execute bus.monitored instruction immediate).run fetched.monitored).2.memory.accesses
  | (.error _, _) => []

theorem dataAccesses_of_fetch {μ : Type} {bus : Bus μ} {core fetched : Core μ}
    {instruction : Instruction} {immediate : Int}
    (found : (fetch bus).run core.forgotten = (.ok (instruction, immediate), fetched))
    : core.dataAccesses bus
      = ((execute bus.monitored instruction immediate).run
          fetched.monitored).2.memory.accesses := by
  unfold dataAccesses
  generalize (fetch bus).run core.forgotten = ran at found ⊢
  subst found
  rfl

/-- The next step executes an instruction that has been read with the opcode in the place of the
byte behind it, and leaves what the step without the latch leaves one byte before.
-/
structure Rereads (core : Core (Recorded FlatRam)) (instruction : Instruction) : Prop where
  fetch
    : ∃ first immediate fetched,
        Chart.decode? core.upcoming.1 = some first
          ∧ (instruction, immediate) = first.reread core.upcoming.1 core.upcoming.2
          ∧ (fetch flat).run core.forgotten = (.ok (instruction, immediate), fetched)
          ∧ fetched.cpu.registers.pc = (core.cpu.registers.pc + instruction.length - 1) % 65536
  cycles
    : ∃ cycles,
        ((step flat).run core).1 = .ok cycles ∧ ((step flat).run core.rewound).1 = .ok cycles
  state
    : ((step flat).run core).2.SameBut (core.cpu.registers.pc - 1) ((step flat).run core.rewound).2

/-- Whatever stands behind a `HALT` that failed to wait is executed as if its opcode stood one byte
before as well, as long as it does not read its data there.
-/
theorem step_rereads {instruction : Instruction} (bug : core.cpu.haltBug = true)
    (executes : ((step flat).run core).2.cpu.lastInstruction = some instruction)
    (apart : ∀ access ∈ core.dataAccesses flat, ¬access.Reads (core.cpu.registers.pc - 1))
    : core.Rereads instruction := by
  obtain ⟨awake, undisturbed, immediate, fetched, found⟩ := (course flat core).found executes
  have opcode : Byte.ofInt (core.forgotten.opened flat).1 = core.upcoming.1 :=
    Byte.ofInt_value core.upcoming.1
  cases decoded : Chart.decode? core.upcoming.1 with
  | none =>
      rw [run_fetch_undefined (opcode ▸ decoded)] at found
      cases found
  | some first =>
      have latched := run_fetch_latched bug decoded
      have rewound := run_fetch_rewound decoded
      have reread := Except.ok.inj (Prod.mk.inj (found.symm.trans latched)).1
      rw [← reread] at latched rewound
      dsimp only at latched rewound
      rw [dataAccesses_of_fetch latched] at apart
      have left := (run_step_executes flat awake undisturbed).trans (run_executeNext latched)
      have awake' : core.rewound.idles = false := awake
      have undisturbed' : core.rewound.interrupted = false := undisturbed
      have right := (run_step_executes flat awake' undisturbed').trans (run_executeNext rewound)
      have executed := (fetched_sameBut bug instruction).execute instruction immediate apart
      have short : (Reference.fetched core.forgotten instruction).cpu.registers.pc
          = (core.cpu.registers.pc + instruction.length - 1) % 65536 := by
        have skew : Reference.skew core.forgotten = 1 := if_pos bug
        rw [← skew]
        rfl
      exact {
        fetch := ⟨first, immediate, _, decoded, reread, latched, short⟩
        cycles := ⟨_, congrArg Prod.fst left, congrArg Prod.fst right⟩
        state := by
          rw [left, right]
          exact executed.completed core.cpu.eiPending }

/-- A processor behind a `HALT` at the last address, with a call at the first one. -/
def repeating : Core (Recorded FlatRam) where
  cpu := { registers := { pc := 0, sp := 0x8000 }, haltBug := true }
  interrupts := {}
  memory := { memory := (FlatRam.zeros.set 0 0xCD).set 1 0x12 }

/-- It calls `0x12CD`, and the call returns to the second of its three bytes. -/
theorem step_rereads_repeating
    : repeating.cpu.haltBug = true
        ∧ ((step flat).run repeating).2.cpu.lastInstruction = some (.call none)
        ∧ repeating.dataAccesses flat = [.write 0x7FFE 2, .write 0x7FFF 0]
        ∧ repeating.Rereads (.call none) := by
  have upcoming : repeating.upcoming = (0xCD, 0x12) := by
    have first : repeating.memory.memory.get 0 = 0xCD := by
      rw [repeating, FlatRam.get_set, if_neg (by decide), FlatRam.get_set, if_pos rfl]
    have second : repeating.memory.memory.get 1 = 0x12 := by
      rw [repeating, FlatRam.get_set, if_pos rfl]
    exact Prod.ext first second
  have decoded : Chart.decode? repeating.upcoming.1 = some (.call none) := by
    rw [upcoming]
    decide +kernel
  have latched := run_fetch_latched rfl decoded
  rw [upcoming] at latched
  have executes : ((step flat).run repeating).2.cpu.lastInstruction = some (.call none) := by
    rw [run_step_executes flat rfl rfl, run_executeNext latched]
    exact congrArg (·.2.1) (executed_record latched)
  have accesses : repeating.dataAccesses flat = [.write 0x7FFE 2, .write 0x7FFF 0] :=
    (dataAccesses_of_fetch latched).trans rfl
  refine ⟨rfl, executes, accesses, step_rereads rfl executes fun access seen => ?_⟩
  rw [accesses] at seen
  rcases List.mem_cons.mp seen with rfl | last
  · exact id
  · obtain rfl := List.mem_singleton.mp last
    exact id

end Core

end Handheld.Cpu
