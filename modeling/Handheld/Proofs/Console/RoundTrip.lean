import Handheld.Desk
import Handheld.Proofs.Console.Reachable
import Handheld.Proofs.Console.Saved

/-! A saved console comes back on any console with the same image.
Every group of stages finds what it looks for in a saved bundle, and leaves its part of the machine
as it was saved.
-/

namespace Handheld

/-- Saving puts a bundle aside, and leaves the console in hand as it is. -/
theorem Desk.save_console (created : String) (name : Json) (desk : Desk)
    : ((save created name).perform desk).2.console = desk.console := by
  have looked : (get : Attempt Desk Desk).perform desk = (.ok desk, desk) := rfl
  rw [save, Attempt.perform_bind_of looked]
  cases desk.tampered.save created with
  | error error => rfl
  | ok bundle =>
      dsimp only
      rw [keepBundle]
      cases name.toKey with
      | error reason => rfl
      | ok key => rfl

/-- An image of the size that its header promises is a cartridge. -/
theorem Cartridge.ofImage_ok {image : Bytes} {header : Header}
    (parsed : Header.parse image = .ok header) (fits : image.size = header.romSize)
    : ∃ cartridge, ofImage image = .ok cartridge := by
  simp only [ofImage, parsed, bind, Except.bind, dif_pos fits]
  exact ⟨_, rfl⟩

namespace Console

variable {c d : Console} {cartridge : Cartridge}

/-- What a bundle holds that a console has saved. -/
def opened (created : String) (registers : Bytes) (c : Console) : Bundle.Opened where
  description := c.description created
  registers := registers
  wram := c.memory.wram.toArray
  hram := c.memory.hram.toArray
  vram := c.memory.peripherals.vram.data.toArray
  oam := c.memory.peripherals.oam.data.toArray
  devices := (c.memory.devices c.interrupts).toArray
  externalRam := c.cartridge.ram

theorem save_ok {registers : Bytes} (packs : c.registers.pack = .ok registers) (created : String)
    : c.save created = .ok (packed (c.opened created registers)) := by
  rw [save, packs]
  rfl

/-- A memory with what another one holds itself, with its windows and its counters. -/
def holding (m n : Memory) : Memory :=
  { n with
    wram := m.wram
    hram := m.hram
    readCount := m.readCount
    writeCount := m.writeCount
    peripherals :=
      { n.peripherals with
        vram := m.peripherals.vram
        oam := m.peripherals.oam
        audio := m.peripherals.audio
        video := m.peripherals.video } }

/-- The memories, the windows and the counters come back. -/
theorem runAll_memory (saving : c.Sound cartridge.build) (loading : d.Sound cartridge.build)
    (created : String) (registers : Bytes)
    : Stage.runAll (Memory.stages (c.opened created registers) c.memory.wram c.memory.hram) d.memory
        = (.ok (), holding c.memory d.memory) := by
  have same : d.memory.build = c.memory.build := loading.build.trans saving.build.symm
  have reads : (c.opened created registers).description.intMember "memory_reads" 0
      = .ok c.memory.readCount := rfl
  have writes : (c.opened created registers).description.intMember "memory_writes" 0
      = .ok c.memory.writeCount := rfl
  have vram := Window.restore_saved (congrArg (·.vram) same)
    (congrArg (·.vram.declared) loading.build)
  have oam := Window.restore_saved (congrArg (·.oam) same)
    (congrArg (·.oam.declared) loading.build)
  have audio := Window.restore_saved (congrArg (·.audio) same)
    (congrArg (·.audio.declared) loading.build)
  have video := Window.restore_saved (congrArg (·.video) same)
    (congrArg (·.video.declared) loading.build)
  rw [← c.memory.devices_audio c.interrupts] at audio
  rw [← c.memory.devices_video c.interrupts] at video
  exact Memory.runAll_stages _ _ reads writes vram oam audio video

/-- The devices come back. -/
theorem runAll_devices (c d : Console) (created : String)
    : Stage.runAll (deviceStages (c.description created)) d
        = (.ok (), d.onCore fun core =>
            { core with
              interrupts := c.interrupts
              memory :=
                { core.memory with
                  timer := c.memory.timer
                  peripherals :=
                    { core.memory.peripherals with
                      joypad := c.memory.peripherals.joypad
                      serial := core.memory.peripherals.serial.restore
                        c.memory.peripherals.serial.sb.value c.memory.peripherals.serial.sc.value
                        c.memory.peripherals.serial.output } } }) := by
  have serial : (c.description created).member "serial" (.object [])
      = .ok (savedSerial c.memory.peripherals.serial) := rfl
  have joypad : (c.description created).member "joypad" (.object [])
      = .ok c.memory.peripherals.joypad.saved := rfl
  have timer : (c.description created).member "timer" (.object [])
      = .ok c.memory.timer.saved := rfl
  have interrupts : (c.description created).member "interrupts" (.object [])
      = .ok c.interrupts.saved := rfl
  have atSerial := fun m =>
    (runAll_fromTable serial [serialStage] m).trans (Serial.runAll_saved _ m)
  have atJoypad := fun j => (runAll_fromTable joypad _ j).trans (Joypad.runAll_saved _ j)
  have atTimer := fun t => (runAll_fromTable timer _ t).trans (Timer.runAll_saved _ t)
  have atInterrupts := fun i =>
    (runAll_fromTable interrupts _ i).trans (Interrupts.runAll_saved _ i)
  rw [deviceStages,
    Stage.runAll_append_of_ok (Stage.runAll_within_of_ok memoryPart (atSerial _)),
    Stage.runAll_append_of_ok (Stage.runAll_within_of_ok joypadPart (atJoypad _)),
    Stage.runAll_append_of_ok (Stage.runAll_within_of_ok timerPart (atTimer _)),
    Stage.runAll_within_of_ok interruptsPart (atInterrupts _)]
  rfl

/-- The registers, the latches and the counts come back. -/
theorem runAll_cpu (c d : Console) (created : String) (registers : Cpu.Snapshot)
    : Stage.runAll (cpuStages (c.description created) registers) d
        = (.ok (),
          { d.onCore fun core =>
              { core with
                cpu :=
                  { core.cpu with
                    registers := registers.registers
                    eiPending := c.cpu.eiPending
                    halted := c.cpu.halted
                    stopped := c.cpu.stopped
                    haltBug := c.cpu.haltBug
                    instructionCount := c.cpu.instructionCount } } with
            cycleOffset := d.clock.cycles - c.timeline
            fault := none }) :=
  rfl

/-- What is found by looking at a bundle that a console has saved. -/
def saved (created : String) (bytes : Bytes) (registers : Cpu.Snapshot) (c : Console) : Found where
  opened := c.opened created bytes
  cartridge := savedCartridge c.cartridge
  wram := c.memory.wram
  hram := c.memory.hram
  registers := registers

/-- A console of the same build accepts at first sight what another one has saved. -/
theorem inspect_saved (saving : c.Sound cartridge.build) (loading : d.Sound cartridge.build)
    {bytes : Bytes} {registers : Cpu.Snapshot} (created : String)
    (unpacked : Cpu.Snapshot.unpack bytes = .ok registers)
    : ((inspect (some (packed (c.opened created bytes)))).perform d).1
        = .ok (c.saved created bytes registers) := by
  have header : c.cartridge.header = d.cartridge.header :=
    congrArg Memory.Build.header (saving.build.trans loading.build.symm)
  have opens : (packed (c.opened created bytes)).open? = .ok (c.opened created bytes) := rfl
  have table : (c.opened created bytes).description.member "cartridge" (.object [])
      = .ok (savedCartridge c.cartridge) := rfl
  have identity : (savedCartridge c.cartridge).member "identity" .null
      = .ok (.string d.cartridge.identity) := by
    rw [Cartridge.identity, ← header]
    rfl
  have wram : (c.opened created bytes).wram.size = 0x2000 := Vector.size_toArray _
  have hram : (c.opened created bytes).hram.size = 0x7F := Vector.size_toArray _
  exact inspect_ok opens table identity wram hram unpacked

/-- All stages together make the machine that was saved. -/
theorem runAll_stages (saving : c.Sound cartridge.build) (loading : d.Sound cartridge.build)
    (running : c.fault = none) (created : String) (bytes : Bytes) {registers : Cpu.Snapshot}
    (same : registers.registers = c.cpu.registers.settled)
    : ∃ d', Stage.runAll (stages (c.saved created bytes registers)) d = (.ok (), d')
        ∧ c.Agrees d' := by
  have built := loading.build.trans saving.build.symm
  have memory := Stage.runAll_within_of_ok memoryPart (runAll_memory saving loading created bytes)
  have cartridge : Stage.runAll (cartridgeStages (savedCartridge c.cartridge) c.cartridge.ram)
      (cartridgePart.get (memoryPart.put (holding c.memory d.memory) d)) = (.ok (), c.cartridge) :=
    Cartridge.runAll_saved (congrArg Memory.Build.header built) (congrArg Memory.Build.rom built)
  have rows : stages (c.saved created bytes registers)
      = (Memory.stages (c.opened created bytes) c.memory.wram c.memory.hram).map
          (.within memoryPart)
        ++ ((cartridgeStages (savedCartridge c.cartridge) c.cartridge.ram).map
            (.within cartridgePart)
          ++ (deviceStages (c.description created)
            ++ cpuStages (c.description created) registers)) := rfl
  -- Each group of stages starts where the one before has ended.
  rw [rows, Stage.runAll_append_of_ok memory,
    Stage.runAll_append_of_ok (Stage.runAll_within_of_ok cartridgePart cartridge),
    Stage.runAll_append_of_ok (runAll_devices c _ created)]
  refine ⟨_, runAll_cpu c _ created registers, ?_⟩
  exact {
    inRange := saving.inRange
    registers := by
      have settled := congrArg Cpu.Registers.settled same
      exact settled.symm
    halted := rfl
    stopped := rfl
    haltBug := rfl
    eiPending := rfl
    instructionCount := rfl
    interrupts := rfl
    memory :=
      { cartridge := rfl, timer := rfl, wram := rfl, hram := rfl, readCount := rfl
        writeCount := rfl, joypad := rfl, vram := rfl, oam := rfl, audio := rfl, video := rfl
        serial := Serial.agrees_restore _ _ }
    fault := running
    timeline := by
      have back : ∀ now line : Int, line = now - (now - line) := by omega
      exact back _ _ }

/-- An image of nothing but zeros. -/
def blankImage : Bytes := Array.replicate 0x8000 0

/-- There is a cartridge with such an image, and a new console with it. -/
theorem built_blank
    : ∃ cartridge wishes c, Cartridge.ofImage blankImage = .ok cartridge
        ∧ ofCartridge cartridge {} wishes = .ok c ∧ c.fault = none := by
  have size : blankImage.size = 0x8000 := Array.size_replicate
  have zero : ∀ place, Cartridge.byteAt blankImage place = 0 := by
    intro place
    simp only [Cartridge.byteAt, blankImage, Array.getElem?_replicate]
    split <;> rfl
  have parsed : ∃ header, Cartridge.Header.parse blankImage = .ok header ∧ header.romBanks = 2 := by
    rw [Cartridge.Header.parse, zero, zero, zero, if_neg (by rw [size]; decide)]
    exact ⟨_, rfl, rfl⟩
  obtain ⟨header, parsed, banks⟩ := parsed
  have fits : blankImage.size = header.romSize := by
    rw [size, Cartridge.Header.romSize, banks, Cartridge.romBankSize]
  obtain ⟨cartridge, inserted⟩ := Cartridge.ofImage_ok parsed fits
  exact ⟨cartridge, { trace := false, tracePath := .null, memoryLog := false }, _, inserted, rfl,
    rfl⟩

theorem reachable_blank : ∃ c, Reachable blankImage c ∧ c.fault = none := by
  obtain ⟨_, _, c, inserted, built, running⟩ := built_blank
  exact ⟨c, .built inserted built, running⟩

/-- Any console takes over what another one with the same image has saved, unless that one has met
a fault, and is then the same machine: both give the same answers to any sequence of turns, and agree
behind it. Saving leaves the console in hand as it is.
-/
theorem save_load_resumes {image : Bytes} (saving : Reachable image c) (loading : Reachable image d)
    (running : c.fault = none) (created : String)
    : ∃ bundle d', c.save created = .ok bundle ∧ (load (some bundle)).perform d = (.ok (), d')
        ∧ c.Agrees d'
        ∧ (∀ turns, (playAll turns c).1 = (playAll turns d').1
          ∧ (playAll turns c).2.Agrees (playAll turns d').2)
        ∧ ∀ name desk, ((Desk.save created name).perform desk).2.console = desk.console := by
  obtain ⟨cartridge, inserted, sound⟩ := saving.sound
  obtain ⟨cartridge', inserted', sound'⟩ := loading.sound
  obtain rfl : cartridge = cartridge' := Except.ok.inj (inserted.symm.trans inserted')
  obtain ⟨bytes, registers, packs, unpacks, same⟩ := Cpu.Snapshot.unpack_pack sound.inRange
  obtain ⟨d', ran, agrees⟩ := runAll_stages sound sound' running created bytes same
  have looked := inspect_saved sound sound' created unpacks
  exact ⟨_, d', save_ok packs created, (load_found looked).trans ran, agrees, agrees.playAll,
    Desk.save_console created⟩

/-- A console that a host has written to comes back on one that has taken a step. -/
theorem save_load_resumes_blank
    : ∃ c d : Console, Reachable blankImage c ∧ Reachable blankImage d ∧ c.fault = none
        ∧ ∃ bundle d', c.save "" = .ok bundle ∧ (load (some bundle)).perform d = (.ok (), d')
          ∧ c.Agrees d'
          ∧ (∀ turns, (playAll turns c).1 = (playAll turns d').1
            ∧ (playAll turns c).2.Agrees (playAll turns d').2)
          ∧ ∀ name desk, ((Desk.save "" name).perform desk).2.console = desk.console := by
  obtain ⟨console, new, running⟩ := reachable_blank
  have saving := new.played (.write 0xC000 7)
  have loading := new.played .step
  exact ⟨_, _, saving, loading, running, save_load_resumes saving loading running ""⟩

end Console

end Handheld
