import Handheld.Proofs.Console.Agreement
import Handheld.Proofs.Console.Stepping

/-! Consoles that a host can come by with one image.
No program and no host exchanges the image in the cartridge or one of the windows for another, and
the registers of the processor stay in range.
-/

namespace Handheld

open Stage (Keeps Preserves)

-----------------------------------------------------------------------------------------
-- What a memory is made of
-----------------------------------------------------------------------------------------

/-- What a memory is made of. Of a window this is everything but its bytes. -/
structure Memory.Build where
  header : Cartridge.Header
  rom : Bytes
  vram : Window 0x2000
  oam : Window 0xA0
  audio : Window 0x30
  video : Window 0x0C

/-- What a memory is made of. Windows are compared as they are when they are filled anew. -/
def Memory.build (m : Memory) : Build where
  header := m.cartridge.header
  rom := m.cartridge.rom
  vram := m.peripherals.vram.reset
  oam := m.peripherals.oam.reset
  audio := m.peripherals.audio.reset
  video := m.peripherals.video.reset

/-- What a new memory with a cartridge is made of. -/
def Cartridge.build (k : Cartridge) : Memory.Build where
  header := k.header
  rom := k.rom
  vram := ({} : Peripherals).vram.reset
  oam := ({} : Peripherals).oam.reset
  audio := ({} : Peripherals).audio.reset
  video := ({} : Peripherals).video.reset

namespace Cartridge

theorem control_header (k : Cartridge) (address : Int) (value : Byte)
    : (k.control address value).header = k.header ∧ (k.control address value).rom = k.rom := by
  rw [control]
  cases k.mapper
  all_goals dsimp only
  all_goals repeat' split
  all_goals exact ⟨rfl, rfl⟩

theorem writeRam_header (k : Cartridge) (offset : Nat) (value : Byte)
    : (k.writeRam offset value).header = k.header ∧ (k.writeRam offset value).rom = k.rom := by
  rw [writeRam]
  split <;> exact ⟨rfl, rfl⟩

end Cartridge

/-- A window that takes over bytes is filled anew as before. -/
theorem Window.restore_reset {size : Nat} {bytes : Bytes} {restored : Window size}
    (window : Window size) (ok : window.restore bytes = .ok restored)
    : restored.reset = window.reset := by
  rw [restore] at ok
  split at ok
  · obtain rfl := Except.ok.inj ok
    rfl
  · cases ok

namespace Memory

variable {m : Memory}

/-- Another cartridge with the same image makes no other memory. -/
theorem build_cartridge {k : Cartridge}
    (same : k.header = m.cartridge.header ∧ k.rom = m.cartridge.rom)
    : { m with cartridge := k }.build = m.build := by
  rw [build, build, same.1, same.2]

theorem set_build (place : Place) (value : Byte) (interrupts : Interrupts)
    : (m.set place value interrupts).2.build = m.build := by
  cases place with
  | rom address => exact build_cartridge (m.cartridge.control_header address value)
  | cartridgeRam offset => exact build_cartridge (m.cartridge.writeRam_header offset value)
  | _ => rfl

theorem write_build (address value : Int) (interrupts : Interrupts)
    : (m.write address value interrupts).2.build = m.build := by
  have kept := set_build (place (Address.ofInt address)) (Byte.ofInt value) interrupts
    (m := { m with
      writeCount := m.writeCount + 1
      log := m.log.noteWrite (Address.ofInt address) (Byte.ofInt value) })
  exact kept

/-- No access changes what a memory is made of. -/
theorem bus_keeps_build (build : Build) : bus.Keeps (fun around => around.2.build = build) where
  setMaster built _ := built
  acknowledge built _ := built
  read built _ := built
  write built address value := (write_build address.toNat value.toNat _).trans built

end Memory

-----------------------------------------------------------------------------------------
-- Nothing exchanges what a console is made of
-----------------------------------------------------------------------------------------

namespace Console

/-- A console of a build, with registers in range. -/
structure Sound (build : Memory.Build) (c : Console) : Prop where
  inRange : c.cpu.registers.InRange
  build : c.memory.build = build

variable {build : Memory.Build} {c : Console}

theorem Agrees.refl (inRange : c.cpu.registers.InRange) : c.Agrees c :=
  { inRange, registers := rfl, halted := rfl, stopped := rfl, haltBug := rfl, eiPending := rfl
    instructionCount := rfl, interrupts := rfl, fault := rfl, timeline := rfl
    memory :=
      { cartridge := rfl, timer := rfl, wram := rfl, hram := rfl, readCount := rfl
        writeCount := rfl, serial := ⟨rfl, rfl, rfl, rfl⟩, joypad := rfl, vram := rfl, oam := rfl
        audio := rfl, video := rfl } }

theorem step_build (inRange : c.cpu.registers.InRange)
    : c.step.2.memory.build = c.memory.build := by
  have start : c.core.Within fun around => around.2.build = c.memory.build := ⟨inRange, rfl⟩
  exact (step_within (Memory.bus_keeps_build _) (fun built _ => ⟨built.inRange, built.around⟩)
    start).around

/-- A window that takes over bytes is the same window. -/
theorem windowStage_build {size : Nat} (window : Peripherals → Window size)
    (put : Window size → Peripherals → Peripherals) (bytes : Bytes)
    (keeps
      : ∀ (m : Memory) restored, restored.reset = (window m.peripherals).reset →
          (m.onPeripherals (put restored)).build = m.build)
    {rest : List (Stage Console)} (later : Preserves (fun c => c.memory.build = build) rest)
    : Preserves (fun c => c.memory.build = build)
        (.within memoryPart (Memory.windowStage window put bytes) :: rest) :=
  .cons (fun c _ read built =>
    (keeps c.memory _ (Window.restore_reset (window c.memory.peripherals) read)).trans built) later

theorem memoryStages_build (opened : Bundle.Opened) (wram : Vector Byte 0x2000)
    (hram : Vector Byte 0x7F)
    : Preserves (fun c => c.memory.build = build)
        ((Memory.stages opened wram hram).map (.within memoryPart)) := by
  refine .cons (fun _ _ _ built => built) ?_
  refine .cons (fun _ _ _ built => built) ?_
  refine .cons (fun _ _ _ built => built) ?_
  refine windowStage_build (·.vram) (fun vram p => { p with vram }) _
    (fun m _ same => congrArg (fun vram => { m.build with vram }) same) ?_
  refine windowStage_build (·.oam) (fun oam p => { p with oam }) _
    (fun m _ same => congrArg (fun oam => { m.build with oam }) same) ?_
  refine windowStage_build (·.audio) (fun audio p => { p with audio }) _
    (fun m _ same => congrArg (fun audio => { m.build with audio }) same) ?_
  exact windowStage_build (·.video) (fun video p => { p with video }) _
    (fun m _ same => congrArg (fun video => { m.build with video }) same) .nil

theorem cartridgeStages_build (cartridge : Json) (ram : Bytes)
    : Preserves (fun c => c.memory.build = build)
        ((cartridgeStages cartridge ram).map (.within cartridgePart)) := by
  refine .cons (fun c restored read built => ?_) ?_
  · obtain ⟨_, rfl⟩ := Cartridge.restoreRam_ok read
    exact built
  · refine .cons (fun _ _ _ built => built) ?_
    refine .cons (fun _ _ _ built => built) ?_
    refine .cons (fun _ _ _ built => built) ?_
    exact .cons (fun _ _ _ built => built) .nil

theorem stages_build (found : Found)
    : Preserves (fun c => c.memory.build = build) (stages found) := by
  have devices : Keeps (Memory.build ∘ memory) (deviceStages found.opened.description) :=
    deviceStages_keep (fun _ _ _ _ => rfl) _
  have cpu := cpuStages_keep Memory.build found.opened.description found.registers
  refine .append (memoryStages_build _ _ _) (.append (cartridgeStages_build _ _) ?_)
  exact (devices.append cpu).preserves build

theorem load_build (saved : Option Bundle)
    : ((load saved).perform c).2.memory.build = c.memory.build := by
  cases looked : ((inspect saved).perform c).1 with
  | error error => rw [load_refused looked]
  | ok found =>
      rw [load_found looked]
      exact (stages_build found).runAll rfl

/-- Whatever a turn does, the console is made of the same and its registers stay in range. Witness:
it agrees with itself, and agreement says that registers are in range.
-/
theorem Sound.play (sound : c.Sound build) (turn : Turn) : (c.play turn).2.Sound build where
  inRange := ((Agrees.refl sound.inRange).play turn).2.inRange
  build := by
    refine Eq.trans ?_ sound.build
    cases turn with
    | step => exact step_build sound.inRange
    | write address value => exact Memory.write_build address value c.interrupts
    | load saved => exact load_build saved
    | _ => rfl

theorem Sound.run (sound : c.Sound build) (limits : Limits) : (c.run limits).2.Sound build :=
  runFrom_keeps (fun sound => sound.play .step) (fun sound => ⟨sound.inRange, sound.build⟩)
    limits _ 0 sound

theorem startTracing_eq (path : Json) (c : Console)
    : ∃ outbox, ((startTracing path).perform c).2
        = { c with announcing := true, ownsTrace := true, outbox } := by
  cases path <;> exact ⟨_, rfl⟩

/-- A new console is one that has been reset, with the cartridge in it, standard windows, and a clock
and a time line at zero. All else that can differ is what has been announced.
-/
theorem ofCartridge_eq {cartridge : Cartridge} {settings : Settings} {wishes : Settings.Wishes}
    {c : Console} (built : ofCartridge cartridge settings wishes = .ok c)
    : ∃ (new : Console) (announcing ownsTrace : Bool) (outbox : List Trace.Event),
        c = { new.reset with announcing, ownsTrace, outbox }
        ∧ new.memory.build = cartridge.build ∧ new.clock = {} ∧ new.cycleOffset = 0 := by
  rw [ofCartridge] at built
  cases limited : Memory.AccessLog.ofLimit (logLimit settings wishes) with
  | error refusal =>
      rw [limited] at built
      cases built
  | ok log =>
      have kept : Except.mapError Error.log (.ok log) = .ok log := rfl
      rw [limited, kept] at built
      simp only [bind, Except.bind] at built
      split at built
      · generalize console : Console.reset _ = new at built
        generalize started : (startTracing _).perform new = ended at built
        obtain ⟨outbox, traced⟩ := startTracing_eq _ new
        rw [started] at traced
        obtain ⟨outcome, begun⟩ := ended
        cases outcome with
        | error error => cases built
        | ok _ =>
            obtain rfl : begun = c := Except.ok.inj built
            exact ⟨_, _, _, outbox, console ▸ traced, rfl, rfl, rfl⟩
      · obtain rfl := Except.ok.inj built
        exact ⟨_, _, _, _, rfl, rfl, rfl, rfl⟩

theorem ofCartridge_core {cartridge : Cartridge} {settings : Settings} {wishes : Settings.Wishes}
    {c : Console} (built : ofCartridge cartridge settings wishes = .ok c)
    : ∃ new : Console, c.core = new.reset.core ∧ new.memory.build = cartridge.build := by
  obtain ⟨new, _, _, _, rfl, build, _⟩ := ofCartridge_eq built
  exact ⟨new, rfl, build⟩

theorem ofCartridge_sound {cartridge : Cartridge} {settings : Settings} {wishes : Settings.Wishes}
    (built : ofCartridge cartridge settings wishes = .ok c)
    : c.Sound cartridge.build := by
  obtain ⟨new, core, build⟩ := ofCartridge_core built
  refine ⟨?_, ?_⟩
  · rw [cpu, core]
    exact Cpu.Registers.powerOn_inRange
  · rw [memory, core]
    exact build

/-- The consoles that a host can come by with an image: new ones, and whatever becomes of them. Runs
up to a position and for a frame are runs within limits.
-/
inductive Reachable (image : Bytes) : Console → Prop
  | built {cartridge : Cartridge} {settings : Settings} {wishes : Settings.Wishes} {c : Console}
    (inserted : Cartridge.ofImage image = .ok cartridge)
    (built : ofCartridge cartridge settings wishes = .ok c)
    : Reachable image c
  | played {c : Console} (turn : Turn) (before : Reachable image c)
    : Reachable image (c.play turn).2
  | ran {c : Console} (limits : Limits) (before : Reachable image c)
    : Reachable image (c.run limits).2

/-- Every console that a host can come by is made of the image, and has registers in range. -/
theorem Reachable.sound {image : Bytes} (reachable : Reachable image c)
    : ∃ cartridge, Cartridge.ofImage image = .ok cartridge ∧ c.Sound cartridge.build := by
  induction reachable with
  | built inserted built => exact ⟨_, inserted, ofCartridge_sound built⟩
  | played turn _ hypothesis =>
      obtain ⟨cartridge, inserted, sound⟩ := hypothesis
      exact ⟨cartridge, inserted, sound.play turn⟩
  | ran limits _ hypothesis =>
      obtain ⟨cartridge, inserted, sound⟩ := hypothesis
      exact ⟨cartridge, inserted, sound.run limits⟩

end Console

end Handheld
