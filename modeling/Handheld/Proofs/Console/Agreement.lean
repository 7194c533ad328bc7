import Handheld.Proofs.Console.Stages
import Handheld.Proofs.Console.Stepping
import Handheld.Proofs.Memory.Agreement

/-! Consoles that agree go on alike.
Agreement is about the machine and its time line. Settings, logs, events that wait for delivery and
the position of the clock itself may differ.
-/

namespace Handheld

open Stage (Respects)

/-- Two consoles are the same machine at the same point of its time line. Registers are in range,
and equal but for how the flags were set.
-/
structure Console.Agrees (c d : Console) : Prop where
  inRange : c.cpu.registers.InRange
  registers : c.cpu.registers.settled = d.cpu.registers.settled
  halted : c.cpu.halted = d.cpu.halted
  stopped : c.cpu.stopped = d.cpu.stopped
  haltBug : c.cpu.haltBug = d.cpu.haltBug
  eiPending : c.cpu.eiPending = d.cpu.eiPending
  instructionCount : c.cpu.instructionCount = d.cpu.instructionCount
  interrupts : c.interrupts = d.interrupts
  memory : c.memory.Agrees d.memory
  fault : c.fault = d.fault
  timeline : c.timeline = d.timeline

namespace Console.Agrees

variable {c d : Console}

/-- The cores of consoles that agree are alike, apart from what they did last. -/
theorem alike (agrees : c.Agrees d)
    : Cpu.Core.Alike Memory.AgreeAround c.core.forgotten d.core.forgotten where
  registers := Cpu.Registers.same_iff.mpr ⟨agrees.inRange, agrees.registers⟩
  halted := agrees.halted
  stopped := agrees.stopped
  haltBug := agrees.haltBug
  eiPending := agrees.eiPending
  instructionCount := agrees.instructionCount
  lastInstruction := rfl
  lastInterrupt := rfl
  around := ⟨agrees.interrupts, agrees.memory⟩

/-- Consoles with cores that are alike agree if they are also at the same point of their time line
and have met the same fault.
-/
theorem ofAlike (alike : Cpu.Core.Alike Memory.AgreeAround c.core d.core)
    (fault : c.fault = d.fault) (timeline : c.timeline = d.timeline)
    : c.Agrees d where
  inRange := (Cpu.Registers.same_iff.mp alike.registers).1
  registers := (Cpu.Registers.same_iff.mp alike.registers).2
  halted := alike.halted
  stopped := alike.stopped
  haltBug := alike.haltBug
  eiPending := alike.eiPending
  instructionCount := alike.instructionCount
  interrupts := alike.around.1
  memory := alike.around.2
  fault := fault
  timeline := timeline

/-- Changes of the interrupt controller alone keep consoles in agreement. -/
theorem onInterrupts (agrees : c.Agrees d) (change : Interrupts → Interrupts)
    : (c.onInterrupts change).Agrees (d.onInterrupts change) :=
  { agrees with interrupts := congrArg change agrees.interrupts }

theorem onJoypad (agrees : c.Agrees d) (change : Joypad → Interrupts → Joypad × Interrupts)
    : (c.onJoypad change).Agrees (d.onJoypad change) := by
  have changed : change c.memory.peripherals.joypad c.interrupts
      = change d.memory.peripherals.joypad d.interrupts := by
    rw [agrees.memory.joypad, agrees.interrupts]
  exact { agrees with
    interrupts := congrArg Prod.snd changed
    memory := { agrees.memory with joypad := congrArg Prod.fst changed } }

theorem read (agrees : c.Agrees d) (address : Int)
    : (c.read address).1 = (d.read address).1 ∧ (c.read address).2.Agrees (d.read address).2 := by
  have read := agrees.memory.read address c.interrupts
  rw [agrees.interrupts] at read
  simp only [Console.read, agrees.interrupts]
  exact ⟨read.1, { agrees with memory := read.2 }⟩

theorem write (agrees : c.Agrees d) (address value : Int)
    : (c.write address value).Agrees (d.write address value) := by
  have written := agrees.memory.write address value c.interrupts
  have right : d.memory.write address value c.interrupts
      = d.memory.write address value d.interrupts := by rw [agrees.interrupts]
  rw [right] at written
  exact { agrees with interrupts := written.1, memory := written.2 }

theorem reset (agrees : c.Agrees d) : c.reset.Agrees d.reset where
  inRange := Cpu.Registers.powerOn_inRange
  registers := rfl
  halted := rfl
  stopped := rfl
  haltBug := rfl
  eiPending := rfl
  instructionCount := rfl
  interrupts := rfl
  memory :=
    { cartridge := congrArg Cartridge.reset agrees.memory.cartridge
      timer := rfl
      wram := rfl
      hram := rfl
      readCount := rfl
      writeCount := rfl
      serial := ⟨rfl, rfl, rfl, rfl⟩
      joypad := rfl
      vram := congrArg Window.reset agrees.memory.vram
      oam := congrArg Window.reset agrees.memory.oam
      audio := congrArg Window.reset agrees.memory.audio
      video := congrArg Window.reset agrees.memory.video }
  fault := rfl
  timeline := agrees.timeline

/-- What is announced makes no difference. -/
theorem announceStep (agrees : c.Agrees d) (cycles : Nat) (overflows overflows' : Int)
    : (c.announceStep cycles overflows).Agrees (d.announceStep cycles overflows') := by
  rw [Console.announceStep, Console.announceStep]
  split <;> split <;> exact { agrees with }

theorem keepFault (agrees : c.Agrees d) (fault : Cpu.Fault)
    : (c.keepFault fault).Agrees (d.keepFault fault) := by
  rw [Console.keepFault, Console.keepFault]
  split <;> split <;> exact { agrees with fault := rfl }

/-- The timers see the same cycles. -/
theorem conclude (agrees : c.Agrees d) (cycles : Nat)
    : (c.conclude cycles).Agrees (d.conclude cycles) := by
  have ticked : c.memory.timer.tick cycles c.interrupts
      = d.memory.timer.tick cycles d.interrupts := by
    rw [agrees.memory.timer, agrees.interrupts]
  have after : (Console.tickTimer cycles c).Agrees (Console.tickTimer cycles d) :=
    { agrees with
      interrupts := congrArg Prod.snd ticked
      memory := { agrees.memory with timer := congrArg Prod.fst ticked } }
  exact after.announceStep cycles _ _

/-- Consoles that agree take the same step. -/
theorem step (agrees : c.Agrees d) : c.step.1 = d.step.1 ∧ c.step.2.Agrees d.step.2 := by
  obtain ⟨same, alike⟩ := agrees.alike.step Memory.bus_congruent
  refine step_together agrees.fault same agrees (fun fault => ?_) (fun cycles => ?_)
  · have between : Console.Agrees
        { c with core := ((Cpu.Core.step Memory.bus).run c.core).2 }
        { d with core := ((Cpu.Core.step Memory.bus).run d.core).2 } :=
      ofAlike alike agrees.fault agrees.timeline
    exact between.keepFault fault
  · have timeline : c.clock.cycles + cycles - c.cycleOffset
        = d.clock.cycles + cycles - d.cycleOffset := by
      have before : c.clock.cycles - c.cycleOffset = d.clock.cycles - d.cycleOffset :=
        agrees.timeline
      omega
    have between : Console.Agrees
        { c with
          core := ((Cpu.Core.step Memory.bus).run c.core).2, clock := c.clock.after cycles }
        { d with
          core := ((Cpu.Core.step Memory.bus).run d.core).2, clock := d.clock.after cycles } :=
      ofAlike alike agrees.fault timeline
    exact between.conclude cycles

end Console.Agrees

-----------------------------------------------------------------------------------------
-- Loads
-----------------------------------------------------------------------------------------

namespace Console

/-- A window takes over the same bytes in memories that agree. -/
theorem windowStage_respects {size : Nat} (window : Peripherals → Window size)
    (put : Window size → Peripherals → Peripherals) (bytes : Bytes)
    (same : ∀ m n : Memory, m.Agrees n → window m.peripherals = window n.peripherals)
    (keeps : ∀ m n : Memory, m.Agrees n → ∀ restored,
      (m.onPeripherals (put restored)).Agrees (n.onPeripherals (put restored)))
    {rest : List (Stage Console)} (later : Respects Agrees rest)
    : Respects Agrees (.within memoryPart (Memory.windowStage window put bytes) :: rest) := by
  refine .cons (fun c d agrees => ⟨?_, fun restored _ => ?_⟩) later
  · exact congrArg (·.restore bytes) (same _ _ agrees.memory)
  · exact { agrees with memory := keeps _ _ agrees.memory restored }

theorem memoryStages_respect (opened : Bundle.Opened) (wram : Vector Byte 0x2000)
    (hram : Vector Byte 0x7F)
    : Respects Agrees ((Memory.stages opened wram hram).map (.within memoryPart)) := by
  refine .cons (fun c d agrees => ⟨rfl, fun _ _ =>
    { agrees with memory := { agrees.memory with wram := rfl, hram := rfl } }⟩) ?_
  refine .cons (fun c d agrees => ⟨rfl, fun _ _ =>
    { agrees with memory := { agrees.memory with readCount := rfl } }⟩) ?_
  refine .cons (fun c d agrees => ⟨rfl, fun _ _ =>
    { agrees with memory := { agrees.memory with writeCount := rfl } }⟩) ?_
  refine windowStage_respects (·.vram) (fun vram p => { p with vram }) _
    (fun _ _ agrees => agrees.vram) (fun _ _ agrees _ => { agrees with vram := rfl }) ?_
  refine windowStage_respects (·.oam) (fun oam p => { p with oam }) _
    (fun _ _ agrees => agrees.oam) (fun _ _ agrees _ => { agrees with oam := rfl }) ?_
  refine windowStage_respects (·.audio) (fun audio p => { p with audio }) _
    (fun _ _ agrees => agrees.audio) (fun _ _ agrees _ => { agrees with audio := rfl }) ?_
  exact windowStage_respects (·.video) (fun video p => { p with video }) _
    (fun _ _ agrees => agrees.video) (fun _ _ agrees _ => { agrees with video := rfl }) .nil

theorem cartridgeStages_respect (cartridge : Json) (ram : Bytes)
    : Respects Agrees ((cartridgeStages cartridge ram).map (.within cartridgePart)) :=
  .within cartridgePart (fun _ _ agrees => agrees.memory.cartridge)
    (fun _ _ agrees _ => { agrees with memory := { agrees.memory with cartridge := rfl } }) _

theorem deviceStages_respect (description : Json) : Respects Agrees (deviceStages description) := by
  refine .append (.cons (fun c d agrees => ⟨rfl, fun _ _ => ?_⟩) .nil) (.append ?_ (.append ?_ ?_))
  · exact { agrees with memory := { agrees.memory with serial := ⟨rfl, rfl, rfl, rfl⟩ } }
  · exact .within joypadPart (fun _ _ agrees => agrees.memory.joypad)
      (fun _ _ agrees _ => { agrees with memory := { agrees.memory with joypad := rfl } }) _
  · exact .within timerPart (fun _ _ agrees => agrees.memory.timer)
      (fun _ _ agrees _ => { agrees with memory := { agrees.memory with timer := rfl } }) _
  · exact .within interruptsPart (fun _ _ agrees => agrees.interrupts)
      (fun _ _ agrees _ => { agrees with interrupts := rfl }) _

theorem cpuStages_respect (description : Json) {registers : Cpu.Snapshot}
    (inRange : registers.registers.InRange)
    : Respects Agrees (cpuStages description registers) := by
  refine .cons (fun c d agrees => ⟨rfl, fun _ _ => ?_⟩) ?_
  · have master := congrArg (fun interrupts => interrupts.setMaster interrupts.master)
      agrees.interrupts
    exact { agrees with
      inRange, registers := rfl, halted := rfl, stopped := rfl, haltBug := rfl, eiPending := rfl
      interrupts := master }
  refine .consTaking (fun c d agrees _ => { agrees with instructionCount := rfl }) ?_
  refine .consTaking (fun c d agrees cycles => { agrees with fault := rfl, timeline := ?_ }) .nil
  have back : ∀ now : Int, now - (now - cycles) = cycles := by omega
  exact (back _).trans (back _).symm

/-- Consoles that agree take over the same, and agree behind it. -/
theorem stages_respect {found : Found} (inRange : found.registers.registers.InRange)
    : Respects Agrees (stages found) :=
  .append (memoryStages_respect _ _ _) <| .append (cartridgeStages_respect _ _) <|
    .append (deviceStages_respect _) (cpuStages_respect _ inRange)

/-- Consoles that agree find the same in a bundle. -/
theorem inspect_respects (saved : Option Bundle) : (inspect saved).Respects Agrees := by
  have table : ∀ document name, (table document name).Respects Agrees := fun _ _ => .expect _
  have sized : ∀ size refusal bytes, (sized size refusal bytes).Respects Agrees := by
    intro size refusal bytes
    rw [Console.sized]
    split
    · exact .pure _
    · exact .throw _
  have checked : ∀ description, (checkCartridge description).Respects Agrees := by
    intro description
    refine (table _ _).bind fun cartridge => .bind (.expect _) fun found => ?_
    refine .getThen (fun c d agrees => ?_) fun console => ?_
    · have cartridge : c.cartridge = d.cartridge := agrees.memory.cartridge
      simp only [cartridge]
    · dsimp only
      split
      · exact .bind (.throw _) fun _ => .pure _
      · exact .pure _
  refine .bind (.ofExcept _) fun opened => (checked _).bind fun cartridge => ?_
  refine (sized _ _ _).bind fun wram => (sized _ _ _).bind fun hram => ?_
  exact .bind (.ofExcept _) fun registers => .pure _

/-- A load does the same to both consoles, even if it fails. -/
theorem Agrees.load {c d : Console} (agrees : c.Agrees d) (saved : Option Bundle)
    : ((load saved).perform c).1 = ((load saved).perform d).1
        ∧ ((load saved).perform c).2.Agrees ((load saved).perform d).2 := by
  have same : ((inspect saved).perform c).1 = ((inspect saved).perform d).1 :=
    (inspect_respects saved c d agrees).1
  cases looked : ((inspect saved).perform c).1 with
  | error error =>
      rw [load_refused looked, load_refused (same.symm.trans looked)]
      exact ⟨rfl, agrees⟩
  | ok found =>
      rw [load_found looked, load_found (same.symm.trans looked)]
      exact (stages_respect (inspect_inRange looked)).runAll agrees

end Console

-----------------------------------------------------------------------------------------
-- Any sequence of steps and host inputs
-----------------------------------------------------------------------------------------

namespace Console

/-- A step, or something that a host does between two steps. -/
inductive Turn
  | step
  | read (address : Int)
  | write (address value : Int)
  | interrupt (source : Source)
  | press (key : Key)
  | release (key : Key)
  | releaseAll
  | reset
  | requestStop
  | load (saved : Option Bundle)

/-- What a host gets to know from a turn. -/
inductive Answer
  | stepped (outcome : Except Error Nat)
  | byte (value : Byte)
  | loaded (outcome : Except Error Unit)
  | done

/-- Takes a turn. -/
def play (turn : Turn) (console : Console) : Answer × Console :=
  match turn with
  | .step => (.stepped console.step.1, console.step.2)
  | .read address => (.byte (console.read address).1, (console.read address).2)
  | .write address value => (.done, console.write address value)
  | .interrupt source => (.done, console.requestInterrupt source)
  | .press key => (.done, console.press key)
  | .release key => (.done, console.release key)
  | .releaseAll => (.done, console.releaseAll)
  | .reset => (.done, console.reset)
  | .requestStop => (.done, console.requestStop)
  | .load saved => (.loaded ((load saved).perform console).1, ((load saved).perform console).2)

/-- Takes turns one after the other. -/
def playAll : List Turn → Console → List Answer × Console
  | [], console => ([], console)
  | turn :: rest, console =>
    let (answer, console) := console.play turn
    let (answers, console) := playAll rest console
    (answer :: answers, console)

theorem Agrees.play {c d : Console} (agrees : c.Agrees d) (turn : Turn)
    : (c.play turn).1 = (d.play turn).1 ∧ (c.play turn).2.Agrees (d.play turn).2 := by
  cases turn with
  | step => exact agrees.step.imp_left (congrArg Answer.stepped)
  | read address => exact (agrees.read address).imp_left (congrArg Answer.byte)
  | write address value => exact ⟨rfl, agrees.write address value⟩
  | interrupt source => exact ⟨rfl, agrees.onInterrupts _⟩
  | press key => exact ⟨rfl, agrees.onJoypad (Joypad.press key)⟩
  | release key =>
      exact ⟨rfl, agrees.onJoypad fun joypad interrupts => (joypad.release key, interrupts)⟩
  | releaseAll =>
      exact ⟨rfl, agrees.onJoypad fun joypad interrupts => (joypad.releaseAll, interrupts)⟩
  | reset => exact ⟨rfl, agrees.reset⟩
  | requestStop => exact ⟨rfl, { agrees with }⟩
  | load saved => exact (agrees.load saved).imp_left (congrArg Answer.loaded)

/-- Consoles that agree give the same answers to any sequence of turns and agree behind it. -/
theorem Agrees.playAll {c d : Console} (agrees : c.Agrees d) (turns : List Turn)
    : (playAll turns c).1 = (playAll turns d).1
        ∧ (playAll turns c).2.Agrees (playAll turns d).2 := by
  induction turns generalizing c d with
  | nil => exact ⟨rfl, agrees⟩
  | cons turn rest hypothesis =>
      obtain ⟨answer, next⟩ := agrees.play turn
      obtain ⟨answers, after⟩ := hypothesis next
      refine ⟨?_, after⟩
      rw [Console.playAll, Console.playAll]
      simp only [answer, answers]

end Console

end Handheld
