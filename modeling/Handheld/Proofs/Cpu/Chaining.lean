import Handheld.Cpu.Trial
import Handheld.Proofs.Cpu.FlatRam
import Handheld.Proofs.Cpu.Mirroring

/-! Trials in a chain.
A trial takes all that it needs from a snapshot and a sparse image, and hands all of it on. So
trials that go on from one another are the steps of one processor over a plain memory.
-/

namespace Handheld.Cpu

-----------------------------------------------------------------------------------------
-- Sparse images
-----------------------------------------------------------------------------------------

namespace Image

/-- Cells find what was inserted last. Their order is of no account. -/
theorem lookup_insert (address value other : Int) (cells : List (Int × Int))
    : (insert address value cells).lookup other
      = if other = address then some value else cells.lookup other := by
  have first (a v : Int) (rest : List (Int × Int))
      : ((a, v) :: rest).lookup other = if other = a then some v else rest.lookup other := by
    by_cases same : other = a <;> simp [List.lookup_cons, same, beq_eq_false_iff_ne.mpr]
  induction cells with
  | nil => exact first address value []
  | cons cell rest ih =>
      obtain ⟨a, v⟩ := cell
      rw [insert]
      split
      · rw [first]
      split
      case isTrue same =>
        rw [first, first, same]
        split <;> rfl
      case isFalse beyond apart =>
        rw [first, first, ih]
        split
        case isTrue same => rw [if_neg (same ▸ Ne.symm apart)]
        case isFalse => rfl

theorem get_set (image : Image) (address value other : Int)
    : (image.set (address % 65536) value).get other
      = if other % 65536 = address % 65536 then value else image.get other := by
  rw [get, get, find?, set, lookup_insert]
  split <;> rfl

/-- Writes that lead from one image to another. Each has the value that its cell held just before.
-/
inductive Replays : Image → List MemoryWrite → Image → Prop
  | done {image : Image} : Replays image [] image
  | write {image later : Image} {address value : Int} {rest : List MemoryWrite}
    (replayed : Replays (image.set address value) rest later)
    : Replays image ({ address, value, previous := image.get address } :: rest) later

theorem Replays.append {start image : Image} {writes : List MemoryWrite}
    (replayed : start.Replays writes image) (address value : Int)
    : start.Replays (writes ++ [{ address, value, previous := image.get address }])
        (image.set address value) := by
  induction replayed with
  | done => exact .write .done
  | write _ ih => exact .write ih

/-- All that an image holds is bytes. -/
structure HoldsBytes (image : Image) : Prop where
  cells : ∀ cell ∈ image.cells, IsByte cell.2
  default : IsByte image.default

theorem HoldsBytes.get {image : Image} (bytes : image.HoldsBytes) (address : Int)
    : IsByte (image.get address) := by
  rw [Image.get]
  cases found : image.find? (address % 65536) with
  | none => exact bytes.default
  | some value =>
      obtain ⟨before, after, listed, _⟩ := List.lookup_eq_some_iff.mp found
      exact bytes.cells (address % 65536, value) (by rw [listed]; simp)

/-- A plain memory with the bytes of an image in it. -/
def flat (image : Image) : FlatRam :=
  Vector.ofFn fun address => Byte.ofInt (image.get address.val)

theorem flat_get {image : Image} (bytes : image.HoldsBytes) (address : Int)
    : image.get address = (image.flat.get address).value := by
  have stored : image.flat.get address = Byte.ofInt (image.get (Address.ofInt address).val) := by
    rw [FlatRam.get, flat]
    exact Vector.getElem_ofFn _
  have same : image.get (Address.ofInt address).val = image.get address := by
    rw [get, get, Address.val_ofInt, Int.emod_emod]
  have bounds := bytes.get address
  rw [stored, same, Byte.value, ← Byte.toNat_ofInt, Int.emod_eq_of_lt bounds.1 bounds.2]

end Image

-----------------------------------------------------------------------------------------
-- What a trial notes down
-----------------------------------------------------------------------------------------

/-- The writes of a sparse memory lead from the image that it began with to the one that it has. -/
def Sparse.Accounts (start : Image) (memory : Sparse) : Prop :=
  start.Replays memory.writes.reverse memory.image

theorem Sparse.bus_accounts (start : Image)
    : Sparse.bus.Mirrors (fun s t => s = t ∧ s.2.Accounts start) Sparse.bus where
  master related := congrArg (·.1.master) related.1
  pending related := congrArg (·.1.pending) related.1
  setMaster related enabled :=
    ⟨congrArg (fun s => (s.1.setMaster enabled, s.2)) related.1, related.2⟩
  answer related address := congrArg (fun s => (Sparse.bus.read address s.1 s.2).1) related.1
  read related address :=
    ⟨congrArg (fun s => (Sparse.bus.read address s.1 s.2).2) related.1, related.2⟩
  write := by
    rintro ⟨interrupts, memory⟩ _ ⟨rfl, accounts⟩ address value
    refine ⟨rfl, ?_⟩
    rw [Accounts] at accounts ⊢
    dsimp only [Sparse.bus]
    rw [List.reverse_cons]
    exact accounts.append _ _

/-- The writes that a trial notes down lead from its image to the one that it hands on. -/
theorem Trial.run_replays {start : Snapshot} {image : Image} {enable requests : Int} {trial : Trial}
    (ran : Trial.run start image enable requests = .ok trial)
    : image.Replays trial.writes trial.image := by
  -- The processor is its own mirror image. Only what surrounds it has to be said of one side.
  have beside : (start.core image enable requests).Mirrored
      (fun s t => s = t ∧ s.2.Accounts image) (start.core image enable requests) :=
    ⟨rfl, rfl, .done⟩
  obtain ⟨_, after⟩ := beside.step (Sparse.bus_accounts image) fun source _ _ _ _ related =>
    ⟨congrArg (fun s => (s.1.acknowledge source, s.2)) related.1, related.2⟩
  rw [Trial.run] at ran
  cases stepped : (Core.step Sparse.bus).run (start.core image enable requests) with
  | mk outcome core =>
      rw [stepped] at ran after
      cases outcome with
      | error fault => cases ran
      | ok cycles =>
          obtain rfl := Except.ok.inj ran
          exact after.around.2

-----------------------------------------------------------------------------------------
-- Chains
-----------------------------------------------------------------------------------------

/-- Trials that go on from one another, up to the first that fails. -/
def Trial.chain (enable : Int) : Nat → Snapshot → Image → Int → List (Except Fault Trial)
  | 0, _, _, _ => []
  | calls + 1, start, image, requests =>
    match Trial.run start image enable requests with
    | .ok trial => .ok trial :: chain enable calls trial.registers trial.image trial.requests
    | .error fault => [.error fault]

/-- What can be told of a step and of what it leaves behind. -/
structure Account where
  cycles : Nat
  name : Option String
  length : Nat
  serviced : Option Source
  registers : Snapshot
  requests : Int
  content : Int → Int

def Trial.account (trial : Trial) : Account where
  cycles := trial.cycles
  name := trial.name
  length := trial.length
  serviced := trial.serviced
  registers := trial.registers
  requests := trial.requests
  content := trial.image.get

namespace Core

/-- What can be told of a processor over a plain memory after a step of some cycles. -/
def account (cycles : Nat) (core : Core FlatRam) : Account where
  cycles
  name := core.cpu.lastInstruction.map Instruction.mnemonic
  length := (core.cpu.lastInstruction.map Instruction.length).getD 0
  serviced := core.cpu.lastInterrupt
  registers := Snapshot.ofCore core
  requests := core.interrupts.requests.toNat
  content address := (core.memory.get address).value

/-- The steps of one processor over a plain memory, up to the first that fails. -/
def steps : Nat → Core FlatRam → List (Except Fault Account)
  | 0, _ => []
  | count + 1, core =>
    match (step FlatRam.bus).run core with
    | (.ok cycles, after) => .ok (after.account cycles) :: steps count after
    | (.error fault, _) => [.error fault]

end Core

/-- A processor as a snapshot describes it, over a plain memory. -/
def Snapshot.over (start : Snapshot) (ram : FlatRam) (enable requests : Int) : Core FlatRam :=
  let interrupts := (({} : Interrupts).writeEnable enable).writeRequests requests
  start.applyTo { cpu := Cpu.powerOn, interrupts, memory := ram }

/-- A sparse memory holds what a plain one does. The interrupts are the same, and such as a snapshot
can pass on.
-/
structure Beside (enable : Int) (s : Interrupts × Sparse) (t : Interrupts × FlatRam) : Prop where
  interrupts : s.1 = t.1
  enable : s.1.enable = Byte.ofInt enable
  counts : s.1.counts = {}
  content : ∀ address, s.2.image.get address = (t.2.get address).value

theorem Beside.mirrors (enable : Int) : Sparse.bus.Mirrors (Beside enable) FlatRam.bus where
  master beside := congrArg Interrupts.master beside.interrupts
  pending beside := congrArg Interrupts.pending beside.interrupts
  setMaster beside enabled :=
    { beside with interrupts := congrArg (·.setMaster enabled) beside.interrupts }
  answer beside address := beside.content address
  read beside _ := { beside with }
  write {s t} beside address value := by
    refine { beside with content := fun other => ?_ }
    have same : Address.ofInt address = Address.ofInt other ↔ other % 65536 = address % 65536 :=
      Address.ofInt_eq_iff.trans eq_comm
    dsimp only [Sparse.bus, FlatRam.bus]
    rw [Image.get_set, FlatRam.get_set]
    simp only [same]
    split
    · exact Byte.toNat_ofInt value
    · exact beside.content other

-----------------------------------------------------------------------------------------
-- Going on
-----------------------------------------------------------------------------------------

theorem Snapshot.registers_ofCore {μ : Type} (core : Core μ)
    : (ofCore core).registers = core.cpu.registers :=
  congrArg (fun flags => { core.cpu.registers with flags })
    (Flags.ofInt_toInt core.cpu.registers.flags)

variable {enable more : Int} {core : Core Sparse} {other : Core FlatRam}

/-- What a trial passes on is all that tells its processor from a new one, apart from the count of
instructions and from what a step forgets.
-/
theorem Core.Ahead.resumed (after : core.Ahead more (Beside enable) other)
    : ((Snapshot.ofCore core).core core.memory.image enable
          core.interrupts.requests.toNat).forgotten.Ahead (-other.cpu.instructionCount)
        (Beside enable) other.forgotten := by
  obtain ⟨level, beside⟩ := after
  have passed : (((({} : Interrupts).writeEnable enable).writeRequests
      core.interrupts.requests.toNat).setMaster core.interrupts.master) = core.interrupts := by
    have enabled : core.interrupts.enable = Byte.ofInt enable := beside.enable
    have uncounted : core.interrupts.counts = {} := beside.counts
    rw [Interrupts.writeEnable, Interrupts.writeRequests, Interrupts.setMaster,
      Bits.ofInt_toNat, ← enabled, ← uncounted]
  refine ⟨?_, ?_⟩
  · calc ((Snapshot.ofCore core).core core.memory.image enable _).forgotten.cpu
      _ = { core.forgotten.cpu with instructionCount := 0 } :=
        congrArg (fun registers => { core.forgotten.cpu with registers, instructionCount := 0 })
          (Snapshot.registers_ofCore core)
      _ = { other.forgotten.cpu with instructionCount := 0 } :=
        congrArg (fun cpu : Cpu =>
          { cpu with instructionCount := 0, lastInstruction := none, lastInterrupt := none }) level
      _ = other.forgotten.cpu.ahead (-other.cpu.instructionCount) :=
        congrArg (fun instructionCount => { other.forgotten.cpu with instructionCount })
          (Int.add_right_neg _).symm
  · obtain ⟨same, enabled, uncounted, content⟩ := beside
    rw [← passed] at same enabled uncounted
    exact ⟨same, enabled, uncounted, content⟩

theorem Core.Ahead.account (after : core.Ahead more (Beside enable) other) (start : Snapshot)
    (cycles : Nat)
    : (Trial.ofCore start cycles core).account = other.account cycles := by
  have same : core.interrupts = other.interrupts := after.around.interrupts
  have content : core.memory.image.get = fun address => (other.memory.get address).value :=
    funext after.around.content
  rw [Trial.account, Trial.ofCore, Core.account, Snapshot.ofCore, Snapshot.ofCore, after.cpu, same]
  exact congrArg (fun content => { other.account cycles with content }) content

/-- Trials in a chain report what the steps of one processor do. -/
theorem Trial.chain_accounts (calls : Nat) {start : Snapshot} {image : Image} {requests : Int}
    (level
      : (start.core image enable requests).forgotten.Ahead more (Beside enable) other.forgotten)
    : (Trial.chain enable calls start image requests).map (·.map Trial.account)
      = other.steps calls := by
  -- Every trial begins to count at zero, so the distance of the counts is another one in each step.
  induction calls generalizing start image requests more other with
  | zero => rfl
  | succ calls ih =>
      obtain ⟨outcome, after⟩ := level.step (Beside.mirrors enable) fun source _ _ _ _ beside =>
        { beside with interrupts := congrArg (·.acknowledge source) beside.interrupts }
      rw [chain, Trial.run, Core.steps]
      cases stepped : (Core.step Sparse.bus).run (start.core image enable requests) with
      | mk result core =>
      cases paced : (Core.step FlatRam.bus).run other with
      | mk result' core' =>
      rw [stepped, paced] at outcome after
      obtain rfl : result = result' := outcome
      cases result with
      | error fault => rfl
      | ok cycles =>
          have reported := after.account start cycles
          exact List.cons_eq_cons.mpr ⟨congrArg Except.ok reported, ih after.resumed⟩

/-- Trials in a chain report what the steps of one processor over a plain memory do, for as long as
they go on. The writes of each lead from the image that it was given to the one that it hands on.
-/
theorem Trial.chain_steps {image : Image} (bytes : image.HoldsBytes) (start : Snapshot)
    (enable requests : Int) (calls : Nat)
    : (chain enable calls start image requests).map (·.map account)
          = (start.over image.flat enable requests).steps calls
        ∧ ∀ {snapshot : Snapshot} {before : Image} {switches bits : Int} {trial : Trial},
            Trial.run snapshot before switches bits = .ok trial
              → before.Replays trial.writes trial.image := by
  refine ⟨?_, fun ran => Trial.run_replays ran⟩
  have level : (start.core image enable requests).forgotten.Ahead 0 (Beside enable)
      (start.over image.flat enable requests).forgotten :=
    ⟨(ahead_zero _).symm, rfl, rfl, rfl, Image.flat_get bytes⟩
  exact chain_accounts calls level

/-- A request waits for the instruction behind `EI`, which writes, and is served then. -/
theorem Trial.chain_steps_enabling
    : let start : Snapshot := { pc := 0xC000, h := 0xC0, l := 0x10 }
      let image : Image := { cells := [(0xC000, 0xFB), (0xC001, 0x34)], default := 0xFF }
      (chain 1 3 start image 1).map (·.map account) = (start.over image.flat 1 1).steps 3
        ∧ (chain 1 3 start image 1).map (·.toOption.map (·.cycles)) = [some 4, some 12, some 20]
        ∧ ∃ trial, Trial.run { start with pc := 0xC001 } image 1 1 = .ok trial
          ∧ trial.writes = [{ address := 0xC010, value := 0x00, previous := 0xFF }]
          ∧ image.Replays trial.writes trial.image := by
  intro start image
  have bytes : image.HoldsBytes := ⟨by simp [image, IsByte], by simp [image, IsByte]⟩
  obtain ⟨accounts, replays⟩ := chain_steps bytes start 1 1 3
  have written : (Trial.run { start with pc := 0xC001 } image 1 1).toOption.map (·.writes)
      = some [{ address := 0xC010, value := 0x00, previous := 0xFF }] := by decide +kernel
  refine ⟨accounts, by decide +kernel, ?_⟩
  cases ran : Trial.run { start with pc := 0xC001 } image 1 1 with
  | error fault =>
      rw [ran] at written
      cases written
  | ok trial =>
      rw [ran] at written
      exact ⟨trial, rfl, Option.some.inj written, replays ran⟩

end Handheld.Cpu
