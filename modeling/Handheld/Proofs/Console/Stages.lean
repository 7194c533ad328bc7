import Handheld.Console.Load
import Handheld.Proofs.Attempt
import Handheld.Proofs.Cpu.Range

/-! Loading a bundle as a row of stages.
First the bundle is looked at, which changes nothing. Then each stage takes over one part of it.
-/

namespace Handheld

open Attempt (Staged)
open Stage (Keeps)
open Cpu (IsByte IsWord)

-----------------------------------------------------------------------------------------
-- The stages of the devices
-----------------------------------------------------------------------------------------

namespace Timer

/-- The stages in which a saved timer is taken over. -/
def stages : List (Json → Stage Timer) := [
  fun state => .taking (state.intMember "divider" 0x1800) fun value timer =>
    { timer with divider := Word.ofInt value },
  fun state => .taking (state.intMember "tima" 0) fun value timer =>
    { timer with tima := Byte.ofInt value },
  fun state => .taking (state.intMember "tma" 0) fun value timer =>
    { timer with tma := Byte.ofInt value },
  fun state => .taking (state.intMember "tac" 0) fun value timer =>
    { timer with tac := BitVec.ofInt 3 value },
  fun state => .taking (state.intMember "tima_cycles" 0) fun value timer =>
    { timer with prescaler := value },
  fun state => .taking (state.intMember "overflow_count" 0) fun value timer =>
    { timer with overflows := value }]

theorem restore_staged (state : Json) : (restore state).Staged (stages.map (· state)) :=
  .takeThen <| .takeThen <| .takeThen <| .takeThen <| .takeThen <| .take _ _

end Timer

namespace Joypad

/-- The keys that a saved joypad lists. -/
def listed (state : Json) : Except Misfit (List Key) := do
  let listed ← state.member "pressed" (.array [])
  (← listed.elements).mapM fun element => element.toNamed Key.ofName?

/-- The stages in which a saved joypad is taken over. -/
def stages : List (Json → Stage Joypad) := [
  fun state => .taking (state.intMember "select" 0x30) write,
  fun state => .taking (listed state) fun keys joypad =>
    { joypad with held := keys.foldl (fun held key => held ||| key.mask) 0 }]

theorem restore_staged (state : Json) : (restore state).Staged (stages.map (· state)) := by
  refine .takeThen ?_
  simp only [Attempt.mapM_expect, Attempt.expect_expect]
  exact .take _ _

end Joypad

namespace Interrupts

/-- Takes over the saved total of a source. -/
def countStage (totals : Json) (source : Source) : Stage Interrupts :=
  .taking (totals.intMember source.name 0) fun total interrupts =>
    { interrupts with counts := interrupts.counts.set source total }

/-- The totals of a saved controller. A table that is empty or switched off has none. -/
def totals (state : Json) : Except Misfit Json :=
  (state.member "request_counts" .null).map fun totals => if totals.isOn then totals else .object []

/-- The stages in which a saved controller is taken over. -/
def stages : List (Json → Stage Interrupts) := [
    fun state => .taking (state.intMember "ie" 0) writeEnable,
    fun state => .taking (state.intMember "if" 0) writeRequests,
    fun state => .taking (state.switchMember "ime" false) setMaster]
  ++ Source.all.map fun source state =>
    .after (totals state) fun totals => countStage totals source

theorem restore_staged (state : Json) : (restore state).Staged (stages.map (· state)) := by
  refine .takeThen <| .takeThen <| .takeThen ?_
  intro interrupts
  have row : ∀ totals, Staged _ (Source.all.map (countStage totals)) :=
    fun totals => .forM Source.all fun source => .take _ _
  have listed : Staged _ ((Source.all.map fun source totals => countStage totals source).map
      (Stage.after (totals state))) := .after (List.cons_ne_nil _ _) row
  refine Eq.trans ?_ (listed interrupts)
  rw [totals]
  cases state.member "request_counts" .null with
  | error reason => rfl
  | ok given => rfl

end Interrupts

namespace Cartridge

/-- A cartridge of which external memory is replaced is otherwise the same. -/
theorem restoreRam_ok {bytes : Bytes} {k restored : Cartridge}
    (ok : restoreRam bytes k = .ok restored)
    : ∃ h : bytes.size = k.header.ramSize, restored = { k with ram := bytes, ram_size := h } := by
  rw [restoreRam] at ok
  split at ok
  · exact ⟨_, (Except.ok.inj ok).symm⟩
  · cases ok

/-- The stages in which saved bank registers are taken over. -/
def bankStages : List (Json → Stage Cartridge) := [
  fun state => {
    read := fun cartridge =>
      (state.switchMember "ram_enabled" cartridge.ramEnabled).mapError .misfit
    put := fun ramEnabled cartridge => { cartridge with ramEnabled } },
  fun state => .taking (state.intMember "rom_bank_register" 1) fun value cartridge =>
    { cartridge with romBankRegister := value },
  fun state => .taking (state.intMember "ram_bank_register" 0) fun value cartridge =>
    { cartridge with ramBankRegister := value },
  fun state => .taking (state.intMember "banking_mode" 0) fun value cartridge =>
    { cartridge with bankingMode := value }]

theorem restoreBanks_staged (state : Json)
    : (restoreBanks state).Staged (bankStages.map (· state)) :=
  .readThen <| .takeThen <| .takeThen <| .take _ _

end Cartridge

namespace Memory

/-- Replaces the bytes of a window. -/
def windowStage {size : Nat} (window : Peripherals → Window size)
    (put : Window size → Peripherals → Peripherals) (bytes : Bytes) : Stage Memory where
  read memory := (window memory.peripherals).restore bytes
  put restored memory := memory.onPeripherals (put restored)

/-- The stages in which the memories and the counters of accesses are taken over. -/
def stages (opened : Bundle.Opened) (wram : Vector Byte 0x2000) (hram : Vector Byte 0x7F)
    : List (Stage Memory) := [
  .always fun memory => { memory with wram, hram },
  .taking (opened.description.intMember "memory_reads" 0) fun readCount memory =>
    { memory with readCount },
  .taking (opened.description.intMember "memory_writes" 0) fun writeCount memory =>
    { memory with writeCount },
  windowStage (·.vram) (fun vram p => { p with vram }) opened.vram,
  windowStage (·.oam) (fun oam p => { p with oam }) opened.oam,
  windowStage (·.audio) (fun audio p => { p with audio }) (opened.devices.extract 0x10 0x40),
  windowStage (·.video) (fun video p => { p with video }) (opened.devices.extract 0x40 0x4C)]

theorem restoreWindow_staged {size : Nat} (window : Peripherals → Window size)
    (put : Window size → Peripherals → Peripherals) (bytes : Bytes)
    : (Console.restoreWindow window put bytes).Staged [windowStage window put bytes] :=
  .replace fun _ => bind_pure_comp _ _

theorem restoreMemories_staged (opened : Bundle.Opened) (wram : Vector Byte 0x2000)
    (hram : Vector Byte 0x7F)
    : (Console.restoreMemories opened wram hram).Staged (stages opened wram hram) := by
  refine .changeThen <| .takeThen <| .takeThen <| ?_
  refine .append (restoreWindow_staged _ _ _) ?_
  refine .append (restoreWindow_staged _ _ _) ?_
  refine .append (restoreWindow_staged _ _ _) ?_
  exact restoreWindow_staged _ _ _

end Memory

/-- Registers that are read from bytes are in range. -/
theorem Cpu.Snapshot.unpack_inRange {bytes : Bytes} {snapshot : Cpu.Snapshot}
    (unpacked : unpack bytes = .ok snapshot)
    : snapshot.registers.InRange := by
  have byte : ∀ place, IsByte (Cartridge.byteAt bytes place).value := fun _ => Byte.isByte_value _
  have word : ∀ low high, IsWord
      ((Cartridge.byteAt bytes low).value + 256 * (Cartridge.byteAt bytes high).value) := by
    intro low high
    have below := byte low
    have above := byte high
    rw [IsByte] at below above
    rw [IsWord]
    omega
  rw [unpack] at unpacked
  dsimp only at unpacked
  split at unpacked
  · obtain rfl := Except.ok.inj unpacked
    exact {
      a := byte _, b := byte _, c := byte _, d := byte _, e := byte _, h := byte _, l := byte _
      sp := word _ _, pc := word _ _ }
  · cases unpacked

-----------------------------------------------------------------------------------------
-- The stages of a console
-----------------------------------------------------------------------------------------

namespace Console

/-- The stage in which a saved serial link is taken over. -/
def serialStage (state : Json) : Stage Memory :=
  .after (state.intMember "sb" 0) fun sb => .after (state.intMember "sc" 0) fun sc =>
    .taking (state.member "output" (.string "") >>= Json.toSpelledBytes) fun output memory =>
      memory.onPeripherals fun p => { p with serial := p.serial.restore sb sc output }

theorem restoreSerial_staged (state : Json)
    : (restoreSerial state).Staged ([serialStage].map (· state)) := by
  refine .needing fun sb => .needing fun sc => ?_
  rw [Attempt.expect_expect]
  exact .take _ _

/-- The stage in which saved registers and latches are taken over. -/
def cpuStage (registers : Cpu.Snapshot) (latches : Json) : Stage Console :=
  .after (latches.switchMember "ei_pending" false) fun eiPending =>
  .after (latches.switchMember "halted" false) fun halted =>
  .after (latches.switchMember "stopped" false) fun stopped =>
  .taking (latches.switchMember "halt_bug" false) fun haltBug console =>
    console.onCore
      { registers with
        ime := console.interrupts.master
        eiPending, halted, stopped, haltBug }.applyTo

theorem restoreCpu_staged (description : Json) (registers : Cpu.Snapshot)
    : (restoreCpu description registers).Staged
        [.after (description.member "cpu" (.object [])) (cpuStage registers)] :=
  .needing fun _ => .needing fun _ => .needing fun _ => .needing fun _ => .take _ _

/-- The memory in a console. -/
def memoryPart : Part Console Memory where
  get := memory
  put memory := onMemory fun _ => memory

/-- The cartridge in a console. -/
def cartridgePart : Part Console Cartridge :=
  memoryPart.of {
    get := Memory.cartridge
    put := fun cartridge memory => { memory with cartridge } }

/-- The joypad of a console. -/
def joypadPart : Part Console Joypad :=
  memoryPart.of {
    get := (·.peripherals.joypad)
    put := fun joypad memory => memory.onPeripherals fun p => { p with joypad } }

/-- The timer of a console. -/
def timerPart : Part Console Timer :=
  memoryPart.of { get := Memory.timer, put := fun timer memory => { memory with timer } }

/-- The interrupt controller of a console. -/
def interruptsPart : Part Console Interrupts where
  get := interrupts
  put interrupts := onInterrupts fun _ => interrupts

/-- Stages that need a table of the description. -/
def fromTable {σ : Type} (description : Json) (name : String) (stages : List (Json → Stage σ))
    : List (Stage σ) :=
  stages.map (.after (description.member name (.object [])))

/-- The stages in which the cartridge's memory and bank registers are taken over. -/
def cartridgeStages (cartridge : Json) (ram : Bytes) : List (Stage Cartridge) :=
  [{ read := Cartridge.restoreRam ram, put := fun restored _ => restored }]
    ++ fromTable cartridge "banks" Cartridge.bankStages

/-- The stages in which the devices are taken over. -/
def deviceStages (description : Json) : List (Stage Console) :=
  (fromTable description "serial" [serialStage]).map (.within memoryPart)
    ++ ((fromTable description "joypad" Joypad.stages).map (.within joypadPart)
      ++ ((fromTable description "timer" Timer.stages).map (.within timerPart)
        ++ (fromTable description "interrupts" Interrupts.stages).map (.within interruptsPart)))

/-- The stages in which the processor and the counts are taken over. -/
def cpuStages (description : Json) (registers : Cpu.Snapshot) : List (Stage Console) :=
  fromTable description "cpu" [cpuStage registers] ++ [
    .taking (description.intMember "instruction_count" 0) fun instructionCount =>
      onCpu fun cpu => { cpu with instructionCount },
    .taking (description.intMember "cycle_count" 0) fun cycles console =>
      { console with cycleOffset := console.clock.cycles - cycles, fault := none }]

theorem fromTable_staged {τ : Type} {action : Json → Attempt Console Unit}
    {stages : List (Json → Stage τ)} (part : Part Console τ) (description : Json) (name : String)
    (nonempty : stages ≠ [])
    (staged : ∀ state, (action state).Staged ((stages.map (· state)).map (.within part)))
    : (table description name >>= action).Staged
        ((fromTable description name stages).map (.within part)) := by
  have rows : ∀ state, (action state).Staged
      ((stages.map fun stage state => (stage state).within part).map (· state)) := by
    intro state
    have listed := staged state
    rwa [List.map_map] at listed ⊢
  have row : (table description name >>= action).Staged _ :=
    .after (fun none => nonempty (List.map_eq_nil_iff.mp none)) rows
  rw [fromTable, List.map_map]
  rwa [List.map_map] at row

theorem restoreCartridge_staged (cartridge : Json) (ram : Bytes)
    : (restoreCartridge cartridge ram).Staged
        ((cartridgeStages cartridge ram).map (.within cartridgePart)) := by
  rw [cartridgeStages, List.map_append]
  refine .append (.replace fun console => bind_pure_comp _ _) ?_
  exact fromTable_staged cartridgePart _ _ (List.cons_ne_nil _ _) fun banks =>
    (Cartridge.restoreBanks_staged banks).within cartridgePart

theorem restoreDevices_staged (description : Json)
    : (restoreDevices description).Staged (deviceStages description) := by
  have serial := fromTable_staged memoryPart description "serial" (List.cons_ne_nil _ _)
    fun state => (restoreSerial_staged state).within memoryPart
  have joypad := fromTable_staged joypadPart description "joypad" (List.cons_ne_nil _ _)
    fun state => (Joypad.restore_staged state).within joypadPart
  have timer := fromTable_staged timerPart description "timer" (List.cons_ne_nil _ _)
    fun state => (Timer.restore_staged state).within timerPart
  have interrupts := fromTable_staged interruptsPart description "interrupts"
    (List.cons_ne_nil _ _) fun state => (Interrupts.restore_staged state).within interruptsPart
  have devices := serial.append (joypad.append (timer.append interrupts))
  simp only [bind_assoc] at devices
  exact devices

/-- What is found by looking at a bundle before anything changes. -/
structure Found where
  opened : Bundle.Opened
  cartridge : Json
  wram : Vector Byte 0x2000
  hram : Vector Byte 0x7F
  registers : Cpu.Snapshot

/-- Looks at what has been saved somewhere: at the format and the presence of all members, at the
cartridge it names, and at the sizes of three members.
-/
def inspect (saved : Option Bundle) : Attempt Console Found := do
  let opened ← Attempt.ofExcept ((saved.map Bundle.open?).getD (.error (.bundle .absent)))
  let cartridge ← checkCartridge opened.description
  let wram ← sized 0x2000 .workRamSize opened.wram
  let hram ← sized 0x7F .highRamSize opened.hram
  let registers ← Attempt.ofExcept (Cpu.Snapshot.unpack opened.registers)
  return { opened, cartridge, wram, hram, registers }

/-- Takes over what has been found. -/
def adopt (found : Found) : Attempt Console Unit := do
  inMemory (restoreMemories found.opened found.wram found.hram)
  restoreCartridge found.cartridge found.opened.externalRam
  restoreDevices found.opened.description
  restoreCpu found.opened.description found.registers
  restoreCounts found.opened.description

/-- The stages in which everything is taken over, in their order. -/
def stages (found : Found) : List (Stage Console) :=
  (Memory.stages found.opened found.wram found.hram).map (.within memoryPart)
    ++ ((cartridgeStages found.cartridge found.opened.externalRam).map (.within cartridgePart)
      ++ (deviceStages found.opened.description
        ++ cpuStages found.opened.description found.registers))

theorem load_eq (saved : Option Bundle) : load saved = inspect saved >>= adopt := by
  rw [load, takeOver, inspect]
  cases saved with
  | none => rfl
  | some bundle =>
      simp only [Option.map_some, Option.getD_some]
      cases bundle.open? with
      | error error => rfl
      | ok opened =>
          simp only [Attempt.ofExcept, bind_assoc, pure_bind, adopt]
          refine bind_congr fun cartridge => bind_congr fun wram => bind_congr fun hram => ?_
          cases Cpu.Snapshot.unpack opened.registers with
          | error error => rfl
          | ok registers => simp only [bind_assoc, pure_bind]

theorem adopt_staged (found : Found) : (adopt found).Staged (stages found) := by
  refine .append ((Memory.restoreMemories_staged _ _ _).within memoryPart) ?_
  refine .append (restoreCartridge_staged _ _) ?_
  refine .append (restoreDevices_staged _) ?_
  exact .append (restoreCpu_staged _ _) (.takeThen <| .take _ _)

section

variable {ω : Type}

/-- The stages of the processor do not touch the memory. -/
theorem cpuStages_keep (portion : Memory → ω) (description : Json) (registers : Cpu.Snapshot)
    : Keeps (portion ∘ memory) (cpuStages description registers) :=
  .cons (fun _ _ => rfl) <| .cons (fun _ _ => rfl) <| .cons (fun _ _ => rfl) .nil

/-- The stages of the devices touch nothing else in the memory. -/
theorem deviceStages_keep {portion : Memory → ω}
    (kept
      : ∀ m serial joypad timer,
          portion { m with timer, peripherals := { m.peripherals with serial, joypad } }
            = portion m)
    (description : Json)
    : Keeps (portion ∘ memory) (deviceStages description) :=
  .append (.cons (fun c _ => kept c.memory _ _ _) .nil) <|
    .append (.within _ (fun _ c => kept c.memory _ _ _) _) <|
      .append (.within _ (fun _ c => kept c.memory _ _ _) _) (.within _ (fun _ _ => rfl) _)

end

/-- Looking at a bundle changes nothing. -/
theorem inspect_looks (saved : Option Bundle) : (inspect saved).Looks := by
  have table : ∀ document name, (table document name).Looks := fun _ _ => .expect _
  have sized : ∀ size refusal bytes, (sized size refusal bytes).Looks := by
    intro size refusal bytes
    rw [Console.sized]
    split
    · exact .pure _
    · exact .throw _
  have checked : ∀ description, (checkCartridge description).Looks := by
    intro description
    refine (table _ _).bind fun cartridge => .bind (.expect _) fun found => ?_
    refine .bind .get fun console => ?_
    dsimp only
    split
    · exact .bind (.throw _) fun _ => .pure _
    · exact .pure _
  refine .bind (.ofExcept _) fun opened => (checked _).bind fun cartridge => ?_
  refine (sized _ _ _).bind fun wram => (sized _ _ _).bind fun hram => ?_
  exact .bind (.ofExcept _) fun registers => .pure _

/-- Registers that pass the look at a bundle are in range. -/
theorem inspect_inRange {saved : Option Bundle} {c : Console} {found : Found}
    (looked : ((inspect saved).perform c).1 = .ok found)
    : found.registers.registers.InRange := by
  obtain ⟨_, _, looked⟩ := Attempt.perform_bind_ok looked
  obtain ⟨_, _, looked⟩ := Attempt.perform_bind_ok looked
  obtain ⟨_, _, looked⟩ := Attempt.perform_bind_ok looked
  obtain ⟨_, _, looked⟩ := Attempt.perform_bind_ok looked
  obtain ⟨registers, unpacked, looked⟩ := Attempt.perform_bind_ok looked
  rw [Attempt.perform_ofExcept] at unpacked
  obtain rfl := Except.ok.inj looked
  exact Cpu.Snapshot.unpack_inRange unpacked

/-- A bundle that holds what is given. -/
def packed (opened : Bundle.Opened) : Bundle where
  description := some (.document opened.description)
  payloads := [
    (Member.registers.name, opened.registers), (Member.wram.name, opened.wram),
    (Member.hram.name, opened.hram), (Member.vram.name, opened.vram),
    (Member.oam.name, opened.oam), (Member.devices.name, opened.devices),
    (Member.externalRam.name, opened.externalRam)]

/-- A bundle of the right format is accepted at first sight if it names the console's cartridge and
three of its members have the right size.
-/
theorem inspect_ok {bundle : Bundle} {c : Console} {opened : Bundle.Opened} {cartridge : Json}
    {registers : Cpu.Snapshot} (opens : bundle.open? = .ok opened)
    (table : opened.description.member "cartridge" (.object []) = .ok cartridge)
    (identity : cartridge.member "identity" .null = .ok (.string c.cartridge.identity))
    (wram : opened.wram.size = 0x2000) (hram : opened.hram.size = 0x7F)
    (unpacked : Cpu.Snapshot.unpack opened.registers = .ok registers)
    : ((inspect (some bundle)).perform c).1
        = .ok
          { opened, cartridge, wram := ⟨opened.wram, wram⟩, hram := ⟨opened.hram, hram⟩
            registers } := by
  have opened' := (Attempt.perform_ofExcept bundle.open? c).trans (congrArg (·, c) opens)
  have unpacked' := (Attempt.perform_ofExcept _ c).trans (congrArg (·, c) unpacked)
  have console : (get : Attempt Console Console).perform c = (.ok c, c) := rfl
  have same : (Json.string c.cartridge.identity).same (.string c.cartridge.identity) = true := by
    rw [Json.same]
    exact decide_eq_true rfl
  have checked : (checkCartridge opened.description).perform c = (.ok cartridge, c) := by
    rw [checkCartridge, Console.table, Attempt.perform_bind_of (Attempt.perform_expect table c),
      Attempt.perform_bind_of (Attempt.perform_expect identity c),
      Attempt.perform_bind_of console]
    dsimp only
    rw [same]
    rfl
  rw [inspect, Option.map_some, Option.getD_some,
    Attempt.perform_bind_of opened', Attempt.perform_bind_of checked,
    sized, dif_pos wram, pure_bind, sized, dif_pos hram, pure_bind,
    Attempt.perform_bind_of unpacked']
  rfl

/-- A bundle that is refused after a look at it leaves the console as it is. -/
theorem load_refused {saved : Option Bundle} {c : Console} {error : Error}
    (refused : ((inspect saved).perform c).1 = .error error)
    : (load saved).perform c = (.error error, c) := by
  rw [load_eq]
  exact Attempt.perform_bind_of_error (Prod.ext refused (inspect_looks saved c))

/-- What has been found in a bundle is taken over in stages. -/
theorem load_found {saved : Option Bundle} {c : Console} {found : Found}
    (looked : ((inspect saved).perform c).1 = .ok found)
    : (load saved).perform c = Stage.runAll (stages found) c := by
  rw [load_eq, Attempt.perform_bind_of (Prod.ext looked (inspect_looks saved c))]
  exact adopt_staged found c

end Console

end Handheld
