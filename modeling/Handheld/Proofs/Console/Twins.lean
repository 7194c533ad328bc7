import Handheld.Proofs.Console.Stepping
import Handheld.Proofs.Cpu.Mirroring
import Handheld.Proofs.Memory.Agreement

/-! Consoles side by side.
Where no access tells two memories apart, the consoles around them do the same, whatever a host does
to both. Their clocks may stand apart, and so may all that merely serves those who watch.
-/

namespace Handheld

-----------------------------------------------------------------------------------------
-- Memories that cannot be told apart
-----------------------------------------------------------------------------------------

/-- A relation between memories that nothing tells apart and nothing breaks: no access, no tick of
the timer, no key, and no reset.
-/
structure Memory.Congruence (M : Memory → Memory → Prop) : Prop where
  read
    : ∀ {m n}, M m n → ∀ address interrupts,
        (m.read address interrupts).1 = (n.read address interrupts).1
        ∧ M (m.read address interrupts).2 (n.read address interrupts).2
  write
    : ∀ {m n}, M m n → ∀ address value interrupts,
        (m.write address value interrupts).1 = (n.write address value interrupts).1
        ∧ M (m.write address value interrupts).2 (n.write address value interrupts).2
  timer : ∀ {m n}, M m n → m.timer = n.timer
  setTimer : ∀ {m n}, M m n → ∀ timer, M { m with timer } { n with timer }
  joypad : ∀ {m n}, M m n → m.peripherals.joypad = n.peripherals.joypad
  setJoypad
    : ∀ {m n}, M m n → ∀ joypad,
        M (m.onPeripherals fun p => { p with joypad }) (n.onPeripherals fun p => { p with joypad })
  powerOn : ∀ {m n}, M m n → M (Console.powerOnMemory m) (Console.powerOnMemory n)

/-- The interrupts are the same and the memories are related. -/
def Memory.Around (M : Memory → Memory → Prop) (s t : Interrupts × Memory) : Prop :=
  s.1 = t.1 ∧ M s.2 t.2

namespace Memory

/-- A processor gets the same answers from memories that nothing tells apart. -/
theorem Congruence.mirrors {M : Memory → Memory → Prop} (congruence : Congruence M)
    : bus.Mirrors (Around M) bus where
  master around := congrArg Interrupts.master around.1
  pending around := congrArg Interrupts.pending around.1
  setMaster around enabled := ⟨congrArg (·.setMaster enabled) around.1, around.2⟩
  answer := by
    rintro ⟨interrupts, m⟩ ⟨_, n⟩ ⟨rfl, related⟩ address
    exact congrArg (·.value) (congruence.read related address interrupts).1
  read := by
    rintro ⟨interrupts, m⟩ ⟨_, n⟩ ⟨rfl, related⟩ address
    exact ⟨rfl, (congruence.read related address interrupts).2⟩
  write := by
    rintro ⟨interrupts, m⟩ ⟨_, n⟩ ⟨rfl, related⟩ address value
    exact congruence.write related address value interrupts

/-- Agreement is such a relation. -/
theorem Agrees.congruence : Congruence Agrees where
  read agrees := agrees.read
  write agrees := agrees.write
  timer agrees := agrees.timer
  setTimer agrees _ := { agrees with timer := rfl }
  joypad agrees := agrees.joypad
  setJoypad agrees _ := { agrees with joypad := rfl }
  powerOn agrees :=
    { cartridge := congrArg Cartridge.reset agrees.cartridge
      timer := rfl
      wram := rfl
      hram := rfl
      readCount := rfl
      writeCount := rfl
      serial := ⟨rfl, rfl, rfl, rfl⟩
      joypad := rfl
      vram := congrArg Window.reset agrees.vram
      oam := congrArg Window.reset agrees.oam
      audio := congrArg Window.reset agrees.audio
      video := congrArg Window.reset agrees.video }

end Memory

-----------------------------------------------------------------------------------------
-- Steps and runs of twins
-----------------------------------------------------------------------------------------

namespace Console

/-- Two consoles are in the same state but for what is left open about their memories. The clock of
the one is ahead by a fixed number of cycles.
-/
structure Twins (M : Memory → Memory → Prop) (ahead : Int) (c d : Console) : Prop where
  cpu : c.cpu = d.cpu
  interrupts : c.interrupts = d.interrupts
  memory : M c.memory d.memory
  fault : c.fault = d.fault
  stopRequested : c.stopRequested = d.stopRequested
  clock : c.clock.cycles = d.clock.cycles + ahead

/-- The limits that a clock reaches later which is ahead. -/
def Limits.later (ahead : Int) (limits : Limits) : Limits :=
  { limits with goal := limits.goal.map (· + ahead) }

namespace Limits

theorem later_reached (limits : Limits) (ahead : Int) (taken : Nat) (cycles : Int)
    : (limits.later ahead).reached taken (cycles + ahead) = limits.reached taken cycles := by
  obtain ⟨steps, goal⟩ := limits
  cases goal with
  | none => rfl
  | some goal =>
      have shifted : (goal + ahead ≤ cycles + ahead) = (goal ≤ cycles) :=
        propext (Int.add_le_add_iff_right ahead)
      simp only [reached, later, Option.map_some, Option.any_some, shifted]

theorem later_patience (limits : Limits) (ahead cycles : Int)
    : (limits.later ahead).patience (cycles + ahead) = limits.patience cycles := by
  obtain ⟨steps, goal⟩ := limits
  cases steps with
  | some steps => rfl
  | none =>
      cases goal with
      | none => rfl
      | some goal =>
          have apart : goal + ahead - (cycles + ahead) = goal - cycles := by omega
          simp only [patience, later, Option.map_some, apart]

end Limits

end Console

namespace Runner

open Console (Limits)

variable {σ τ : Type} {left : Runner σ} {right : Runner τ} {ahead : Int} {R : σ → τ → Prop}

/-- Related states take related steps with the same outcome, and neither the clocks nor the requests to
stop tell them apart.
-/
structure Alongside (left : Runner σ) (right : Runner τ) (ahead : Int) (R : σ → τ → Prop)
    : Prop where
  clock : ∀ {s t}, R s t → left.cycles s = right.cycles t + ahead
  stopRequested
    : ∀ {s t}, R s t → (left.console s).stopRequested = (right.console t).stopRequested
  stop
    : ∀ {s t}, R s t →
        R (left.onConsole (fun console => { console with stopRequested := false }) s)
          (right.onConsole (fun console => { console with stopRequested := false }) t)
  step : ∀ {s t}, R s t → (left.step s).1 = (right.step t).1 ∧ R (left.step s).2 (right.step t).2

namespace Alongside

variable (alongside : left.Alongside right ahead R) {s : σ} {t : τ}
include alongside

/-- Related states take as many steps in a run, and end it for the same reason. -/
theorem runFrom (related : R s t) (limits : Limits) (patience taken : Nat)
    : (left.runFrom (limits.later ahead) patience taken s).1
        = (right.runFrom limits patience taken t).1
        ∧ R (left.runFrom (limits.later ahead) patience taken s).2
            (right.runFrom limits patience taken t).2 := by
  induction patience generalizing s t taken with
  | zero => exact ⟨rfl, related⟩
  | succ patience hypothesis =>
      have reached : (limits.later ahead).reached taken (left.cycles s)
          = limits.reached taken (right.cycles t) := by
        rw [alongside.clock related, limits.later_reached]
      obtain ⟨outcome, next⟩ := alongside.step related
      rw [Runner.runFrom, Runner.runFrom, reached, alongside.stopRequested related]
      split
      · exact ⟨rfl, related⟩
      split
      · exact ⟨rfl, alongside.stop related⟩
      rcases ran : left.step s with ⟨first, s'⟩
      rcases ran' : right.step t with ⟨second, t'⟩
      rw [ran, ran'] at outcome next
      obtain rfl : first = second := outcome
      cases first with
      | ok cycles => exact hypothesis next (taken + 1)
      | error error => exact ⟨rfl, next⟩

theorem run (related : R s t) (limits : Limits)
    : (left.run (limits.later ahead) s).1 = (right.run limits t).1
        ∧ R (left.run (limits.later ahead) s).2 (right.run limits t).2 := by
  have patience : (limits.later ahead).patience (left.cycles s)
      = limits.patience (right.cycles t) := by
    rw [alongside.clock related, limits.later_patience]
  rw [Runner.run, Runner.run, patience]
  exact alongside.runFrom related limits _ 0

/-- Runs of related states take as many cycles. -/
theorem elapse (related : R s t) (limits : Limits)
    : (left.elapse (limits.later ahead) s).1 = (right.elapse limits t).1
        ∧ R (left.elapse (limits.later ahead) s).2 (right.elapse limits t).2 := by
  obtain ⟨outcome, after⟩ := alongside.run related limits
  have apart : left.cycles (left.run (limits.later ahead) s).2 - left.cycles s
      = right.cycles (right.run limits t).2 - right.cycles t := by
    rw [alongside.clock related, alongside.clock after]
    omega
  simp only [Runner.elapse, outcome, apart]
  exact ⟨trivial, after⟩

end Alongside

end Runner

namespace Console

namespace Twins

variable {M : Memory → Memory → Prop} {ahead : Int} {c d : Console}

theorem core (twins : Twins M ahead c d) : c.core.Mirrored (Memory.Around M) d.core :=
  ⟨twins.cpu, twins.interrupts, twins.memory⟩

theorem ofCore (mirrored : c.core.Mirrored (Memory.Around M) d.core) (fault : c.fault = d.fault)
    (stopRequested : c.stopRequested = d.stopRequested)
    (clock : c.clock.cycles = d.clock.cycles + ahead)
    : Twins M ahead c d :=
  ⟨mirrored.cpu, mirrored.around.1, mirrored.around.2, fault, stopRequested, clock⟩

/-- What is announced makes no difference. -/
theorem announceStep (twins : Twins M ahead c d) (cycles : Nat) (overflows overflows' : Int)
    : Twins M ahead (c.announceStep cycles overflows) (d.announceStep cycles overflows') := by
  obtain ⟨_, _, left⟩ := announceStep_eq cycles overflows c
  obtain ⟨_, _, right⟩ := announceStep_eq cycles overflows' d
  rw [left, right]
  exact { twins with }

theorem keepFault (twins : Twins M ahead c d) (fault : Cpu.Fault)
    : Twins M ahead (c.keepFault fault) (d.keepFault fault) := by
  obtain ⟨_, left⟩ := keepFault_eq fault c
  obtain ⟨_, right⟩ := keepFault_eq fault d
  rw [left, right]
  exact { twins with fault := rfl }

variable (congruence : Memory.Congruence M)
include congruence

/-- The timers see the same cycles. -/
theorem conclude (twins : Twins M ahead c d) (cycles : Nat)
    : Twins M ahead (c.conclude cycles) (d.conclude cycles) := by
  have ticked : c.memory.timer.tick cycles c.interrupts
      = d.memory.timer.tick cycles d.interrupts := by
    rw [congruence.timer twins.memory, twins.interrupts]
  have memory : M
      { c.memory with timer := (c.memory.timer.tick cycles c.interrupts).1 }
      { d.memory with timer := (d.memory.timer.tick cycles d.interrupts).1 } := by
    rw [← ticked]
    exact congruence.setTimer twins.memory _
  have after : Twins M ahead (tickTimer cycles c) (tickTimer cycles d) :=
    { twins with interrupts := congrArg Prod.snd ticked, memory }
  exact after.announceStep cycles _ _

/-- Twins take the same step. -/
theorem step (twins : Twins M ahead c d)
    : c.step.1 = d.step.1 ∧ Twins M ahead c.step.2 d.step.2 := by
  obtain ⟨same, mirrored⟩ := twins.core.step congruence.mirrors
    (fun source _ _ _ _ around => ⟨congrArg (·.acknowledge source) around.1, around.2⟩)
  refine step_together twins.fault same twins (fun fault => ?_) (fun cycles => ?_)
  · have between : Twins M ahead
        { c with core := ((Cpu.Core.step Memory.bus).run c.core).2 }
        { d with core := ((Cpu.Core.step Memory.bus).run d.core).2 } :=
      ofCore mirrored twins.fault twins.stopRequested twins.clock
    exact between.keepFault fault
  · have clock : c.clock.cycles + cycles = d.clock.cycles + cycles + ahead := by
      rw [twins.clock]
      omega
    have between : Twins M ahead
        { c with
          core := ((Cpu.Core.step Memory.bus).run c.core).2, clock := c.clock.after cycles }
        { d with
          core := ((Cpu.Core.step Memory.bus).run d.core).2, clock := d.clock.after cycles } :=
      ofCore mirrored twins.fault twins.stopRequested clock
    exact between.conclude congruence cycles

/-- Twins run alongside each other. -/
theorem alongside : runner.Alongside runner ahead (Twins M ahead) where
  clock twins := twins.clock
  stopRequested twins := twins.stopRequested
  stop twins := { twins with stopRequested := rfl }
  step twins := twins.step congruence

end Twins

-----------------------------------------------------------------------------------------
-- Any sequence of operations
-----------------------------------------------------------------------------------------

/-- A step, a run, or something that a host does between two steps. -/
inductive Operation
  | step
  | run (limits : Limits)
  | runUntil (goal : Int)
  | runFor (cycles : Int)
  | read (address : Int)
  | write (address value : Int)
  | interrupt (source : Source)
  | press (key : Key)
  | release (key : Key)
  | releaseAll
  | requestStop
  | reset

/-- What a host gets from an operation. -/
inductive Result
  | steps (outcome : Except Error Nat)
  | cycles (outcome : Except Error Int)
  | byte (value : Byte)
  | done

/-- Carries out an operation. -/
def operate (operation : Operation) (console : Console) : Result × Console :=
  match operation with
  | .step => (.steps console.step.1, console.step.2)
  | .run limits => (.steps (console.run limits).1, (console.run limits).2)
  | .runUntil goal => (.cycles (console.runUntil goal).1, (console.runUntil goal).2)
  | .runFor cycles =>
    let goal := console.clock.cycles + cycles
    (.cycles (console.runUntil goal).1, (console.runUntil goal).2)
  | .read address => (.byte (console.read address).1, (console.read address).2)
  | .write address value => (.done, console.write address value)
  | .interrupt source => (.done, console.requestInterrupt source)
  | .press key => (.done, console.press key)
  | .release key => (.done, console.release key)
  | .releaseAll => (.done, console.releaseAll)
  | .requestStop => (.done, console.requestStop)
  | .reset => (.done, console.reset)

/-- A frame is a run for as many cycles as the settings say. -/
theorem runFrame_eq (c : Console)
    : c.operate (.runFor c.settings.cyclesPerFrame) = (.cycles c.runFrame.1, c.runFrame.2) :=
  rfl

/-- Carries out operations one after the other. -/
def operateAll : List Operation → Console → List Result × Console
  | [], console => ([], console)
  | operation :: rest, console =>
    let (result, console) := console.operate operation
    let (results, console) := operateAll rest console
    (result :: results, console)

/-- The same operation for a clock that is ahead. -/
def Operation.later (ahead : Int) : Operation → Operation
  | .run limits => .run (limits.later ahead)
  | .runUntil goal => .runUntil (goal + ahead)
  | operation => operation

namespace Twins

variable {M : Memory → Memory → Prop} {ahead : Int} {c d : Console}
variable (congruence : Memory.Congruence M)
include congruence

theorem read (twins : Twins M ahead c d) (address : Int)
    : (c.read address).1 = (d.read address).1
        ∧ Twins M ahead (c.read address).2 (d.read address).2 := by
  obtain ⟨value, memory⟩ := congruence.read twins.memory address c.interrupts
  rw [twins.interrupts] at value memory
  simp only [Console.read, twins.interrupts]
  exact ⟨value, { twins with memory }⟩

theorem write (twins : Twins M ahead c d) (address value : Int)
    : Twins M ahead (c.write address value) (d.write address value) := by
  obtain ⟨interrupts, memory⟩ := congruence.write twins.memory address value c.interrupts
  have same : d.memory.write address value c.interrupts
      = d.memory.write address value d.interrupts := by rw [twins.interrupts]
  rw [same] at interrupts memory
  exact { twins with interrupts, memory }

theorem onJoypad (twins : Twins M ahead c d)
    (change : Joypad → Interrupts → Joypad × Interrupts)
    : Twins M ahead (c.onJoypad change) (d.onJoypad change) := by
  have changed : change c.memory.peripherals.joypad c.interrupts
      = change d.memory.peripherals.joypad d.interrupts := by
    rw [congruence.joypad twins.memory, twins.interrupts]
  have memory : M
      (c.memory.onPeripherals fun p =>
        { p with joypad := (change c.memory.peripherals.joypad c.interrupts).1 })
      (d.memory.onPeripherals fun p =>
        { p with joypad := (change d.memory.peripherals.joypad d.interrupts).1 }) := by
    rw [← changed]
    exact congruence.setJoypad twins.memory _
  exact { twins with interrupts := congrArg Prod.snd changed, memory }

/-- Twins give the same result and stay twins, whatever is done to them. -/
theorem operate (twins : Twins M ahead c d) (operation : Operation)
    : (c.operate (operation.later ahead)).1 = (d.operate operation).1
        ∧ Twins M ahead (c.operate (operation.later ahead)).2 (d.operate operation).2 := by
  cases operation with
  | step => exact (twins.step congruence).imp_left (congrArg Result.steps)
  | run limits => exact ((alongside congruence).run twins limits).imp_left (congrArg Result.steps)
  | runUntil goal =>
      have ran := (alongside congruence).elapse twins { goal := some goal }
      exact ran.imp_left (congrArg Result.cycles)
  | runFor cycles =>
      have goal : c.clock.cycles + cycles = d.clock.cycles + cycles + ahead := by
        rw [twins.clock]
        omega
      have ran := (alongside congruence).elapse twins { goal := some (d.clock.cycles + cycles) }
      simp only [Limits.later, Option.map_some, ← goal] at ran
      exact ran.imp_left (congrArg Result.cycles)
  | read address => exact (twins.read congruence address).imp_left (congrArg Result.byte)
  | write address value => exact ⟨rfl, twins.write congruence address value⟩
  | interrupt source =>
      exact ⟨rfl, { twins with interrupts := congrArg (·.request source) twins.interrupts }⟩
  | press key => exact ⟨rfl, twins.onJoypad congruence (Joypad.press key)⟩
  | release key =>
      exact ⟨rfl,
        twins.onJoypad congruence fun joypad interrupts => (joypad.release key, interrupts)⟩
  | releaseAll =>
      exact ⟨rfl,
        twins.onJoypad congruence fun joypad interrupts => (joypad.releaseAll, interrupts)⟩
  | requestStop => exact ⟨rfl, { twins with stopRequested := rfl }⟩
  | reset =>
      exact ⟨rfl, rfl, rfl, congruence.powerOn twins.memory, rfl, rfl, twins.clock⟩

/-- Twins give the same results to any sequence of operations. -/
theorem operateAll (twins : Twins M ahead c d) (operations : List Operation)
    : (operateAll (operations.map (·.later ahead)) c).1 = (operateAll operations d).1
        ∧ Twins M ahead (operateAll (operations.map (·.later ahead)) c).2
            (operateAll operations d).2 := by
  induction operations generalizing c d with
  | nil => exact ⟨rfl, twins⟩
  | cons operation rest hypothesis =>
      obtain ⟨result, next⟩ := twins.operate congruence operation
      obtain ⟨results, after⟩ := hypothesis next
      refine ⟨?_, after⟩
      rw [List.map_cons, Console.operateAll, Console.operateAll]
      simp only [result, results]

end Twins

end Console

end Handheld
