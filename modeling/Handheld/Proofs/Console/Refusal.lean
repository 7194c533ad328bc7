import Handheld.Proofs.Console.Stages

/-! Loads that fail.
Some defects of a bundle show before anything changes. Others show only when earlier stages have
been carried out, which nobody undoes.
-/

namespace Handheld

open Stage (Apart Keeps)
open Console (fromTable)

-----------------------------------------------------------------------------------------
-- No stage undoes what an earlier one has done
-----------------------------------------------------------------------------------------

theorem Timer.stages_apart (reading : Except Misfit Json)
    : Apart id (Timer.stages.map (.after reading)) := by
  refine .cons (·.divider) (fun t _ _ => congrArg fun divider => { t with divider }) ?_ <|
    .cons (·.tima) (fun t _ _ => congrArg fun tima => { t with tima }) ?_ <|
    .cons (·.tma) (fun t _ _ => congrArg fun tma => { t with tma }) ?_ <|
    .cons (·.tac) (fun t _ _ => congrArg fun tac => { t with tac }) ?_ <|
    .cons (·.prescaler) (fun t _ _ => congrArg fun prescaler => { t with prescaler }) ?_ <|
    .cons (·.overflows) (fun t _ _ => congrArg fun overflows => { t with overflows }) ?_ .nil
  all_goals repeat' first | exact .nil | refine .cons (fun _ _ => rfl) ?_

theorem Joypad.stages_apart (reading : Except Misfit Json)
    : Apart id (Joypad.stages.map (.after reading)) := by
  refine .cons (fun j => (j.directionLine, j.buttonLine))
      (fun j _ _ => congrArg fun lines : Bool × Bool =>
        { j with directionLine := lines.1, buttonLine := lines.2 }) ?_ <|
    .cons (·.held) (fun j _ _ => congrArg fun held => { j with held }) ?_ .nil
  all_goals repeat' first | exact .nil | refine .cons (fun _ _ => rfl) ?_

theorem Interrupts.stages_apart (reading : Except Misfit Json)
    : Apart id (Interrupts.stages.map (.after reading)) := by
  have count : ∀ i : Interrupts, ∀ change : Int → Tally, ∀ {x y}, x = y → _ :=
    fun i change _ _ same => congrArg (fun x => { i with counts := change x }) same
  refine .cons (·.enable) (fun i _ _ => congrArg fun enable => { i with enable }) ?_ <|
    .cons (·.requests) (fun i _ _ => congrArg fun requests => { i with requests }) ?_ <|
    .cons (·.master) (fun i _ _ => congrArg fun master => { i with master }) ?_ <|
    .cons (·.counts.vblank) (fun i _ _ => count i fun vblank => { i.counts with vblank }) ?_ <|
    .cons (·.counts.lcdStat) (fun i _ _ => count i fun lcdStat => { i.counts with lcdStat }) ?_ <|
    .cons (·.counts.timer) (fun i _ _ => count i fun timer => { i.counts with timer }) ?_ <|
    .cons (·.counts.serial) (fun i _ _ => count i fun serial => { i.counts with serial }) ?_ <|
    .cons (·.counts.joypad) (fun i _ _ => count i fun joypad => { i.counts with joypad }) ?_ .nil
  all_goals repeat' first | exact .nil | refine .cons (fun _ _ => rfl) ?_

theorem Cartridge.bankStages_apart (reading : Except Misfit Json)
    : Apart id (Cartridge.bankStages.map (.after reading)) := by
  refine .cons (·.ramEnabled) (fun k _ _ => congrArg fun ramEnabled => { k with ramEnabled }) ?_ <|
    .cons (·.romBankRegister)
      (fun k _ _ => congrArg fun romBankRegister => { k with romBankRegister }) ?_ <|
    .cons (·.ramBankRegister)
      (fun k _ _ => congrArg fun ramBankRegister => { k with ramBankRegister }) ?_ <|
    .cons (·.bankingMode) (fun k _ _ => congrArg fun bankingMode => { k with bankingMode }) ?_ .nil
  all_goals repeat' first | exact .nil | refine .cons (fun _ _ => rfl) ?_

theorem Cartridge.stages_apart (cartridge : Json) (ram : Bytes)
    : Apart id (Console.cartridgeStages cartridge ram) := by
  refine .cons (·.ram) ?_ ?_ (bankStages_apart (cartridge.member "banks" (.object [])))
  · intro k restored read same
    obtain ⟨fits, rfl⟩ := restoreRam_ok read
    obtain rfl : ram = k.ram := same
    rfl
  · repeat' first | exact .nil | refine .cons (fun _ _ => rfl) ?_

/-- What a memory holds besides the cartridge and the state of devices. -/
structure Memory.Contents where
  work : Vector Byte 0x2000 × Vector Byte 0x7F
  readCount : Int
  writeCount : Int
  vram : Window 0x2000
  oam : Window 0xA0
  audio : Window 0x30
  video : Window 0x0C

/-- The contents of a memory. -/
def Memory.contents (m : Memory) : Contents where
  work := (m.wram, m.hram)
  readCount := m.readCount
  writeCount := m.writeCount
  vram := m.peripherals.vram
  oam := m.peripherals.oam
  audio := m.peripherals.audio
  video := m.peripherals.video

theorem Memory.stages_apart (opened : Bundle.Opened) (wram : Vector Byte 0x2000)
    (hram : Vector Byte 0x7F)
    : Apart Memory.contents (Memory.stages opened wram hram) := by
  have device : ∀ m : Memory, ∀ {δ : Type} (change : δ → Peripherals → Peripherals) {x y : δ},
      x = y → m.onPeripherals (change x) = m.onPeripherals (change y) :=
    fun m _ change _ _ => congrArg fun x => m.onPeripherals (change x)
  refine .cons (·.work)
      (fun m _ _ => congrArg fun work : Vector Byte 0x2000 × Vector Byte 0x7F =>
        { m with wram := work.1, hram := work.2 }) ?_ <|
    .cons (·.readCount) (fun m _ _ => congrArg fun readCount => { m with readCount }) ?_ <|
    .cons (·.writeCount) (fun m _ _ => congrArg fun writeCount => { m with writeCount }) ?_ <|
    .cons (·.vram) (fun m _ _ => device m fun vram p => { p with vram }) ?_ <|
    .cons (·.oam) (fun m _ _ => device m fun oam p => { p with oam }) ?_ <|
    .cons (·.audio) (fun m _ _ => device m fun audio p => { p with audio }) ?_ <|
    .cons (·.video) (fun m _ _ => device m fun video p => { p with video }) ?_ .nil
  all_goals repeat' first | exact .nil | refine .cons (fun _ _ => rfl) ?_

theorem Console.cpuStages_apart (description : Json) (registers : Cpu.Snapshot)
    : Apart id (Console.cpuStages description registers) := by
  refine .cons (fun c => { c.cpu with instructionCount := 0 })
      (fun c _ _ => congrArg fun cpu : Cpu =>
        c.onCpu fun _ => { cpu with instructionCount := c.cpu.instructionCount }) ?_ <|
    .cons (·.cpu.instructionCount)
      (fun c _ _ => congrArg fun instructionCount =>
        c.onCpu fun cpu => { cpu with instructionCount }) ?_ <|
    .cons (fun c => (c.cycleOffset, c.fault))
      (fun c _ _ => congrArg fun end' : Int × Option Cpu.Fault =>
        { c with cycleOffset := end'.1, fault := end'.2 }) ?_ .nil
  all_goals repeat' first | exact .nil | refine .cons (fun _ _ => rfl) ?_

/-- A window takes over nothing but its own number of bytes. -/
theorem Window.restore_error {size : Nat} {bytes : Bytes} (window : Window size)
    (misfit : bytes.size ≠ size)
    : ∃ error, window.restore bytes = .error error :=
  ⟨_, dif_neg fun fits => misfit fits.1⟩

/-- A cartridge of nothing but zeros. -/
def Cartridge.blank : Cartridge where
  header :=
    { title := "BLANK", typeCode := 0, mapper := .romOnly, romBanks := 2, ramSize := 0
      battery := false, headerChecksum := 0, globalChecksum := 0, checksumValid := false }
  rom := Array.replicate 0x8000 0
  ram := #[]
  rom_size := Array.size_replicate
  ram_size := rfl

namespace Console

/-- Among the stages of the devices and the processor none touches what an earlier one has taken
over.
-/
theorem deviceStages_apart (description : Json) (registers : Cpu.Snapshot)
    : Apart id (deviceStages description ++ cpuStages description registers) := by
  have serial : Apart ((·.peripherals.serial) ∘ memory)
      ((fromTable description "serial" [serialStage]).map (.within memoryPart)) :=
    .cons id (fun c _ _ => congrArg fun serial =>
      c.onMemory fun m => m.onPeripherals fun p => { p with serial }) .nil .nil
  have joypad : Apart ((·.peripherals.joypad) ∘ memory)
      ((fromTable description "joypad" Joypad.stages).map (.within joypadPart)) :=
    (Joypad.stages_apart _).within joypadPart
  have timer : Apart (Memory.timer ∘ memory)
      ((fromTable description "timer" Timer.stages).map (.within timerPart)) :=
    (Timer.stages_apart _).within timerPart
  have interrupts : Apart interrupts
      ((fromTable description "interrupts" Interrupts.stages).map (.within interruptsPart)) :=
    (Interrupts.stages_apart _).within interruptsPart
  have cpu : ∀ {ω : Type} (portion : Memory → ω), Keeps (portion ∘ memory)
      (cpuStages description registers) := fun portion => cpuStages_keep portion _ _
  rw [deviceStages, List.append_assoc, List.append_assoc, List.append_assoc]
  -- From the last row to the first: each is put before later ones that do not touch its part.
  have last := interrupts.append (cpuStages_apart description registers)
    (.cons (fun _ _ => rfl) <| .cons (fun _ _ => rfl) <| .cons (fun _ _ => rfl) .nil)
  have third := timer.append last (.append (.within _ (fun _ _ => rfl) _) (cpu _))
  have second := joypad.append third
    (.append (.within _ (fun _ _ => rfl) _) (.append (.within _ (fun _ _ => rfl) _) (cpu _)))
  exact serial.append second
    (.append (.within _ (fun _ _ => rfl) _)
      (.append (.within _ (fun _ _ => rfl) _) (.append (.within _ (fun _ _ => rfl) _) (cpu _))))

/-- No stage of a load touches what an earlier one has taken over. -/
theorem stages_apart (found : Found) : Apart id (stages found) := by
  have contents : Apart (Memory.contents ∘ memory)
      ((Memory.stages found.opened found.wram found.hram).map (.within memoryPart)) :=
    (Memory.stages_apart _ _ _).within memoryPart
  have cartridge : Apart (Memory.cartridge ∘ memory)
      ((cartridgeStages found.cartridge found.opened.externalRam).map (.within cartridgePart)) :=
    (Cartridge.stages_apart _ _).within cartridgePart
  have board := cartridge.append
    (deviceStages_apart found.opened.description found.registers)
    (.append (deviceStages_keep (fun _ _ _ _ => rfl) _) (cpuStages_keep _ _ _))
  exact contents.append board
    (.append (.within _ (fun _ _ => rfl) _)
      (.append (deviceStages_keep (fun _ _ _ _ => rfl) _) (cpuStages_keep _ _ _)))

/-- Once a bundle has passed the look at it, its board memories replace those of the console,
whether the load succeeds or fails.
-/
theorem load_found_work {saved : Option Bundle} {c : Console} {found : Found}
    (looked : ((inspect saved).perform c).1 = .ok found)
    : ((load saved).perform c).2.memory.wram = found.wram
        ∧ ((load saved).perform c).2.memory.hram = found.hram := by
  let work := fun m : Memory => (m.wram, m.hram)
  have contents : Keeps (work ∘ memory)
      ((Memory.stages found.opened found.wram found.hram).tail.map (.within memoryPart)) := by
    repeat' first | exact .nil | refine .cons (fun _ _ => rfl) ?_
  have cartridge : Keeps (work ∘ memory)
      ((cartridgeStages found.cartridge found.opened.externalRam).map (.within cartridgePart)) :=
    .within _ (fun _ _ => rfl) _
  have devices : Keeps (work ∘ memory) (deviceStages found.opened.description) :=
    deviceStages_keep (fun _ _ _ _ => rfl) _
  have cpu := cpuStages_keep work found.opened.description found.registers
  rw [load_found looked]
  exact Prod.mk.inj ((contents.append (cartridge.append (devices.append cpu))).runAll rfl)

-----------------------------------------------------------------------------------------
-- A load that fails part-way
-----------------------------------------------------------------------------------------

theorem usualFrame_pos : 0 < cyclesPerFrame := by decide

theorem usualLimit_nonneg : (0 : Int) ≤ 0 := by decide

/-- A console with such a cartridge. -/
def blank : Console where
  settings := { cyclesPerFrame_pos := usualFrame_pos, accessLogLimit_nonneg := usualLimit_nonneg }
  core :=
    { cpu := {}
      interrupts := {}
      memory :=
        { cartridge := .blank
          log := { enabled := false, reads := { limit := none }, writes := { limit := none } } } }

/-- What a made-up bundle for such a console holds: work memory of equal bytes, as many bytes of
display memory as somebody likes, and more members in its description.
-/
def made (fill : Byte) (vramSize : Nat) (members : List (Text × Json)) : Bundle.Opened where
  description := .object <|
    ("magic", .string Bundle.magic) :: ("version", .int Bundle.version)
      :: ("cartridge", .object [("identity", .string Cartridge.blank.identity)]) :: members
  registers := Array.replicate 12 0
  wram := Array.replicate 0x2000 fill
  hram := Array.replicate 0x7F fill
  vram := Array.replicate vramSize 0
  oam := Array.replicate 0xA0 0
  devices := Array.replicate 0x80 0
  externalRam := #[]

/-- What is found by looking at such a bundle. -/
def seen (fill : Byte) (vramSize : Nat) (members : List (Text × Json)) : Found where
  opened := made fill vramSize members
  cartridge := .object [("identity", .string Cartridge.blank.identity)]
  wram := ⟨Array.replicate 0x2000 fill, Array.size_replicate⟩
  hram := ⟨Array.replicate 0x7F fill, Array.size_replicate⟩
  registers := { pc := 0, sp := 0 }

theorem inspect_made (fill : Byte) (vramSize : Nat) (members : List (Text × Json))
    : ((inspect (some (packed (made fill vramSize members)))).perform blank).1
        = .ok (seen fill vramSize members) := by
  have opens : (packed (made fill vramSize members)).open? = .ok (made fill vramSize members) := rfl
  have table : (made fill vramSize members).description.member "cartridge" (.object [])
      = .ok (seen fill vramSize members).cartridge := rfl
  have identity : (seen fill vramSize members).cartridge.member "identity" .null
      = .ok (.string blank.cartridge.identity) := rfl
  have wram : (made fill vramSize members).wram.size = 0x2000 := Array.size_replicate
  have hram : (made fill vramSize members).hram.size = 0x7F := Array.size_replicate
  have unpacked : Cpu.Snapshot.unpack (made fill vramSize members).registers
      = .ok (seen fill vramSize members).registers := by
    simp [made, seen, Cpu.Snapshot.unpack, Cpu.Snapshot.packedSize, Cpu.Snapshot.widths,
      Cartridge.byteAt, Byte.value]
  exact inspect_ok opens table identity wram hram unpacked

/-- A console with work memory and high memory full of equal bytes. -/
def filled (fill : Byte) : Console :=
  blank.onMemory fun m => { m with wram := (seen fill 1 []).wram, hram := (seen fill 1 []).hram }

/-- A bundle with too little display memory is refused when it has replaced the board memories. -/
theorem load_truncated (fill : Byte)
    : ∃ error, (load (some (packed (made fill 1 [])))).perform blank = (.error error, filled fill)
        ∧ ∃ stage rest, (stages (seen fill 1 [])).drop 3 = stage :: rest
          ∧ stage.run (filled fill) = .error error := by
  have short : (made fill 1 []).vram.size ≠ 0x2000 := by simp [made]
  obtain ⟨error, refused⟩ := blank.memory.peripherals.vram.restore_error short
  have fourth : Stage.runAll ((stages (seen fill 1 [])).drop 3) (filled fill)
      = (.error error, filled fill) := Stage.runAll_cons_of_error refused
  have first : Stage.runAll (stages (seen fill 1 [])) blank
      = Stage.runAll ((stages (seen fill 1 [])).drop 3) (filled fill) := rfl
  rw [load_found (inspect_made fill 1 [])]
  refine ⟨error, first.trans fourth, _, _, rfl, ?_⟩
  exact congrArg (Except.map _) refused

/-- A load that fails leaves the console as it was just if the bundle was refused after a look at
it, or if every stage before the one that failed found in the console what it brought.
-/
theorem load_failed_unchanged_iff {saved : Option Bundle} {c d : Console} {error : Error}
    (failed : (load saved).perform c = (.error error, d))
    : d = c
        ↔ ((inspect saved).perform c).1 = .error error
          ∨ ∃ found done stage rest,
            ((inspect saved).perform c).1 = .ok found
              ∧ stages found = done ++ stage :: rest
              ∧ (∀ earlier ∈ done, earlier.run c = .ok c) ∧ stage.run c = .error error := by
  cases looked : ((inspect saved).perform c).1 with
  | error refusal =>
      rw [load_refused looked] at failed
      obtain ⟨outcome, rfl⟩ := Prod.mk.inj failed
      obtain rfl : refusal = error := Except.error.inj outcome
      exact ⟨fun _ => .inl rfl, fun _ => rfl⟩
  | ok found =>
      rw [load_found looked] at failed
      refine ((stages_apart found).unchanged_iff failed).trans ⟨?_, ?_⟩
      · rintro ⟨done, stage, rest, split, idle, fails⟩
        exact .inr ⟨found, done, stage, rest, rfl, split, idle, fails⟩
      · rintro (refused | ⟨found', done, stage, rest, same, split, idle, fails⟩)
        · cases refused
        · obtain rfl : found = found' := Except.ok.inj same
          exact ⟨done, stage, rest, split, idle, fails⟩

/-- Nothing has changed if the work memory was full of zeros in the bundle as well. -/
theorem load_failed_unchanged_iff_truncated
    : ∃ error d, (load (some (packed (made 0 1 [])))).perform blank = (.error error, d)
        ∧ d = blank := by
  obtain ⟨error, failed, stage, rest, fourth, fails⟩ := load_truncated 0
  refine ⟨error, _, failed, (load_failed_unchanged_iff failed).mpr (.inr ?_)⟩
  refine ⟨_, (stages (seen 0 1 [])).take 3, stage, rest, inspect_made 0 1 [], ?_, ?_, fails⟩
  · rw [← fourth, List.take_append_drop]
  · have idle : (stages (seen 0 1 [])).take 3 = [_, _, _] := rfl
    rw [idle]
    refine List.forall_mem_cons.mpr ⟨rfl, List.forall_mem_cons.mpr ⟨rfl, ?_⟩⟩
    exact List.forall_mem_cons.mpr ⟨rfl, List.forall_mem_nil _⟩

/-- A load that fails may leave other work memory behind. -/
theorem load_truncated_changes
    : ∃ error d, (load (some (packed (made 1 1 [])))).perform blank = (.error error, d)
        ∧ d ≠ blank := by
  obtain ⟨error, failed, _⟩ := load_truncated 1
  refine ⟨error, _, failed, fun same => ?_⟩
  have cell := congrArg (fun c : Console => c.memory.wram[0]) same
  simp [filled, seen, blank, memory, onMemory, onCore] at cell

end Console

end Handheld
