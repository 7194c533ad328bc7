import Handheld.Proofs.Console.Refusal
import Handheld.Proofs.Console.Saved

/-! What a loaded machine may hold.
Most of a machine is brought into range by the widths of its parts, whatever a bundle says. Two
parts are taken over as they are: the phase of the timer and the bank registers of the cartridge.
-/

namespace Handheld

open Cpu (IsByte IsWord)
open Stage (Keeps)
open Console (fromTable)

-----------------------------------------------------------------------------------------
-- Machines whose parts are in range
-----------------------------------------------------------------------------------------

/-- The gate and the bank registers that writes to the program area can leave behind. A board without
a circuit never shuts its gate.
-/
def Mapper.Reaches (mapper : Mapper) (gate : Bool) (rom ram mode : Int) : Prop :=
  match mapper with
  | .romOnly => gate = true ∧ rom = 1 ∧ ram = 0 ∧ mode = 0
  | .mbc1 => (1 ≤ rom ∧ rom ≤ 31) ∧ (0 ≤ ram ∧ ram ≤ 3) ∧ 0 ≤ mode ∧ mode ≤ 1
  | .mbc2 => (1 ≤ rom ∧ rom ≤ 15) ∧ ram = 0 ∧ mode = 0
  | .mbc3 => (1 ≤ rom ∧ rom ≤ 127) ∧ (0 ≤ ram ∧ ram ≤ 15) ∧ mode = 0
  | .mbc5 => (0 ≤ rom ∧ rom ≤ 511) ∧ (0 ≤ ram ∧ ram ≤ 15) ∧ mode = 0

/-- The gate and the bank registers are within the reach of the circuit. -/
def Cartridge.BanksReached (k : Cartridge) : Prop :=
  k.mapper.Reaches k.ramEnabled k.romBankRegister k.ramBankRegister k.bankingMode

theorem Cartridge.reset_banksReached (k : Cartridge) : k.reset.BanksReached := by
  cases kind : k.header.mapper <;> simp [BanksReached, mapper, Mapper.Reaches, reset, kind]

/-- No write to the program area leads out of the reach of the circuit. -/
theorem Cartridge.BanksReached.control {k : Cartridge} (reached : k.BanksReached) (address : Int)
    (value : Byte)
    : (k.control address value).BanksReached := by
  have bound := value.isLt
  cases kind : k.header.mapper
  all_goals
    simp only [BanksReached, mapper, kind, Mapper.Reaches] at reached
    simp only [Cartridge.control, mapper, kind]
    repeat' split
  all_goals
    simp only [BanksReached, mapper, gateRam, selectRom, selectRam, kind, Mapper.Reaches]
    try split
  all_goals omega

/-- The timer has counted less than a whole period towards its next increment. -/
def Timer.InPhase (t : Timer) : Prop := 0 ≤ t.prescaler ∧ t.prescaler < t.period

/-- Every part of a machine holds what the hardware can hold. -/
structure Console.WellFormed (c : Console) : Prop where
  registers : c.cpu.registers.InRange
  flags : IsByte c.cpu.registers.f ∧ c.cpu.registers.f % 16 = 0
  enable : IsByte c.interrupts.readEnable
  requests : c.interrupts.requests.toNat < 32
  divider : IsWord c.memory.timer.divider.value
  tima : IsByte c.memory.timer.tima.value
  tma : IsByte c.memory.timer.tma.value
  control : c.memory.timer.control &&& 0xF8#8 = 0xF8#8
  phase : c.memory.timer.InPhase
  transfer : c.memory.peripherals.serial.sc &&& 0x7E#8 = 0#8
  lines : c.memory.peripherals.joypad.lines ∈ [0, 16, 32, 48]
  banks : c.cartridge.BanksReached

/-- All but three conditions hold by the widths of the parts. -/
theorem Console.wellFormed_iff {c : Console}
    : c.WellFormed
        ↔ c.cpu.registers.InRange ∧ c.memory.timer.InPhase ∧ c.cartridge.BanksReached := by
  constructor
  · intro formed
    exact ⟨formed.registers, formed.phase, formed.banks⟩
  · rintro ⟨registers, phase, banks⟩
    have control : ∀ byte : Byte, (0xF8#8 ||| byte) &&& 0xF8#8 = 0xF8#8 := by
      intro byte
      ext i _
      rw [BitVec.getElem_and, BitVec.getElem_or]
      cases (0xF8#8)[i] <;> simp
    exact {
      registers, phase, banks
      flags := c.cpu.registers.f_isByte
      enable := Byte.isByte_value _
      requests := c.interrupts.requests.isLt
      divider := by
        have bound := c.memory.timer.divider.isLt
        exact ⟨Int.natCast_nonneg _, by rw [Word.value]; omega⟩
      tima := Byte.isByte_value _
      tma := Byte.isByte_value _
      control := control _
      transfer := by
        rw [Serial.sc]
        cases c.memory.peripherals.serial.transfer
          <;> cases c.memory.peripherals.serial.internalClock <;> rfl
      lines := by
        rw [Joypad.lines]
        cases c.memory.peripherals.joypad.directionLine
          <;> cases c.memory.peripherals.joypad.buttonLine <;> simp }

-----------------------------------------------------------------------------------------
-- What an accepted bundle leaves behind
-----------------------------------------------------------------------------------------

/-- The whole number under a name in a table of a document. -/
def Json.tableInt (document : Json) (table key : Text) (default : Int) : Except Misfit Int :=
  document.member table (.object []) >>= fun found => found.intMember key default

/-- The switch under a name in a table of a document. -/
def Json.tableSwitch (document : Json) (table key : Text) (default : Bool) : Except Misfit Bool :=
  document.member table (.object []) >>= fun found => found.switchMember key default

/-- The timer takes its rate and its phase from the description. -/
theorem Timer.restored {description : Json} {t u : Timer}
    (done : Stage.runAll (fromTable description "timer" stages) t = (.ok (), u))
    : description.tableInt "timer" "tima_cycles" 0 = .ok u.prescaler
        ∧ ∃ tac, description.tableInt "timer" "tac" 0 = .ok tac ∧ u.tac = BitVec.ofInt 3 tac := by
  obtain ⟨_, _, done⟩ := Stage.runAll_cons_ok done
  obtain ⟨_, _, done⟩ := Stage.runAll_cons_ok done
  obtain ⟨_, _, done⟩ := Stage.runAll_cons_ok done
  obtain ⟨tac, tacRead, done⟩ := Stage.runAll_cons_ok done
  obtain ⟨cycles, cyclesRead, done⟩ := Stage.runAll_cons_ok done
  obtain ⟨_, _, done⟩ := Stage.runAll_cons_ok done
  obtain rfl := congrArg Prod.snd done
  exact ⟨Stage.read_after_taking cyclesRead, tac.2, Stage.read_after_taking tacRead, rfl⟩

/-- The cartridge takes its gate and its bank registers from the description as they are. -/
theorem Cartridge.restored {description : Json} {ram : Bytes} {k l : Cartridge}
    (done : Stage.runAll (Console.cartridgeStages description ram) k = (.ok (), l))
    : l.mapper = k.mapper
        ∧ description.tableSwitch "banks" "ram_enabled" k.ramEnabled = .ok l.ramEnabled
        ∧ description.tableInt "banks" "rom_bank_register" 1 = .ok l.romBankRegister
        ∧ description.tableInt "banks" "ram_bank_register" 0 = .ok l.ramBankRegister
        ∧ description.tableInt "banks" "banking_mode" 0 = .ok l.bankingMode := by
  obtain ⟨restored, ramRead, done⟩ := Stage.runAll_cons_ok done
  obtain ⟨_, rfl⟩ := restoreRam_ok ramRead
  obtain ⟨gate, gateRead, done⟩ := Stage.runAll_cons_ok done
  obtain ⟨rom, romRead, done⟩ := Stage.runAll_cons_ok done
  obtain ⟨ram, ramRead, done⟩ := Stage.runAll_cons_ok done
  obtain ⟨mode, modeRead, done⟩ := Stage.runAll_cons_ok done
  have gateGiven := Stage.read_after gateRead
  obtain rfl := congrArg Prod.snd done
  exact ⟨rfl, gateGiven, Stage.read_after_taking romRead, Stage.read_after_taking ramRead,
    Stage.read_after_taking modeRead⟩

namespace Console

/-- What a console takes from a bundle that it accepts, as far as nothing brings it into range. -/
structure Restored (found : Found) (c d : Console) : Prop where
  registers : d.cpu.registers = found.registers.registers
  mapper : d.cartridge.mapper = c.cartridge.mapper
  gate
    : found.cartridge.tableSwitch "banks" "ram_enabled" c.cartridge.ramEnabled
        = .ok d.cartridge.ramEnabled
  romBank
    : found.cartridge.tableInt "banks" "rom_bank_register" 1 = .ok d.cartridge.romBankRegister
  ramBank
    : found.cartridge.tableInt "banks" "ram_bank_register" 0 = .ok d.cartridge.ramBankRegister
  mode : found.cartridge.tableInt "banks" "banking_mode" 0 = .ok d.cartridge.bankingMode
  prescaler
    : found.opened.description.tableInt "timer" "tima_cycles" 0 = .ok d.memory.timer.prescaler
  rate
    : ∃ tac, found.opened.description.tableInt "timer" "tac" 0 = .ok tac
        ∧ d.memory.timer.tac = BitVec.ofInt 3 tac

theorem restored_of_runAll {found : Found} {c d : Console}
    (done : Stage.runAll (stages found) c = (.ok (), d))
    : Restored found c d := by
  obtain ⟨c₁, contents, done⟩ := Stage.runAll_append_ok done
  obtain ⟨c₂, cartridge, done⟩ := Stage.runAll_append_ok done
  obtain ⟨c₃, devices, cpu⟩ := Stage.runAll_append_ok done
  obtain ⟨c₄, serial, later⟩ := Stage.runAll_append_ok devices
  obtain ⟨c₅, joypad, later⟩ := Stage.runAll_append_ok later
  obtain ⟨c₆, timer, interrupts⟩ := Stage.runAll_append_ok later
  have cpuKeeps : ∀ {ω : Type} (portion : Memory → ω), portion d.memory = portion c₃.memory :=
    fun portion => (cpuStages_keep portion _ _).runAll cpu
  have untouched : cartridgePart.get c₁ = c.cartridge := by
    have keeps : Keeps (·.cartridge)
        ((Memory.stages found.opened found.wram found.hram).map (.within memoryPart)) := by
      repeat' first | exact .nil | refine .cons (fun _ _ => rfl) ?_
    exact keeps.runAll contents
  have onCartridge := Cartridge.restored (Stage.runAll_within_ok cartridge)
  have cartridge' : d.cartridge = cartridgePart.get c₂ :=
    (cpuKeeps Memory.cartridge).trans ((deviceStages_keep (fun _ _ _ _ => rfl) _).runAll devices)
  have onTimer := Timer.restored (Stage.runAll_within_ok timer)
  have timer' : d.memory.timer = timerPart.get c₆ := by
    have keeps : Keeps (·.memory.timer) ((fromTable found.opened.description "interrupts"
        Interrupts.stages).map (.within interruptsPart)) := .within _ (fun _ _ => rfl) _
    exact (cpuKeeps Memory.timer).trans (keeps.runAll interrupts)
  have registers : d.cpu.registers = found.registers.registers := by
    obtain ⟨_, _, counts⟩ := Stage.runAll_cons_ok cpu
    obtain ⟨_, _, counts⟩ := Stage.runAll_cons_ok counts
    obtain ⟨_, _, counts⟩ := Stage.runAll_cons_ok counts
    obtain rfl := congrArg Prod.snd counts
    rfl
  rw [← cartridge', untouched] at onCartridge
  rw [← timer'] at onTimer
  exact {
    registers
    mapper := onCartridge.1
    gate := onCartridge.2.1
    romBank := onCartridge.2.2.1
    ramBank := onCartridge.2.2.2.1
    mode := onCartridge.2.2.2.2
    prescaler := onTimer.1
    rate := onTimer.2 }

/-- Memories full of zeros are what a blank console has already. -/
theorem runAll_made {members : List (Text × Json)}
    (reads : (made 0 0x2000 members).description.intMember "memory_reads" 0 = .ok 0)
    (writes : (made 0 0x2000 members).description.intMember "memory_writes" 0 = .ok 0)
    : Stage.runAll ((Memory.stages (made 0 0x2000 members) (seen 0 0x2000 members).wram
          (seen 0 0x2000 members).hram).map (.within memoryPart)) blank = (.ok (), blank) := by
  let p := blank.memory.peripherals
  have vram : p.vram.restore p.vram.data.toArray = .ok p.vram := Window.restore_saved rfl rfl
  have oam : p.oam.restore p.oam.data.toArray = .ok p.oam := Window.restore_saved rfl rfl
  have audio : p.audio.restore p.audio.data.toArray = .ok p.audio := Window.restore_saved rfl rfl
  have video : p.video.restore p.video.data.toArray = .ok p.video := Window.restore_saved rfl rfl
  have slice : ∀ low high, high ≤ 0x80 →
      (made 0 0x2000 members).devices.extract low high = Array.replicate (high - low) 0 := by
    intro low high bound
    rw [made, Array.extract_replicate, Nat.min_eq_left bound]
  have audioSlice : Array.replicate (0x40 - 0x10) 0 = p.audio.data.toArray := rfl
  have videoSlice : Array.replicate (0x4C - 0x40) 0 = p.video.data.toArray := rfl
  rw [← audioSlice, ← slice 0x10 0x40 (by decide)] at audio
  rw [← videoSlice, ← slice 0x40 0x4C (by decide)] at video
  have memories := Memory.runAll_stages (seen 0 0x2000 members).wram (seen 0 0x2000 members).hram
    reads writes vram oam audio video
  exact Stage.runAll_within_of_ok memoryPart memories

/-- A bundle brings a phase within the period of the rate that it selects, and a cartridge takes a
gate and bank registers from it within the reach of its circuit.
-/
structure Found.Proper (found : Found) (k : Cartridge) : Prop where
  phase
    : ∀ tac cycles, found.opened.description.tableInt "timer" "tac" 0 = .ok tac →
        found.opened.description.tableInt "timer" "tima_cycles" 0 = .ok cycles →
          Timer.InPhase { tac := BitVec.ofInt 3 tac, prescaler := cycles }
  banks
    : ∀ gate rom ram mode,
        found.cartridge.tableSwitch "banks" "ram_enabled" k.ramEnabled = .ok gate →
          found.cartridge.tableInt "banks" "rom_bank_register" 1 = .ok rom →
            found.cartridge.tableInt "banks" "ram_bank_register" 0 = .ok ram →
              found.cartridge.tableInt "banks" "banking_mode" 0 = .ok mode →
                k.mapper.Reaches gate rom ram mode

/-- A console that has accepted a bundle is well formed just if the bundle is proper. Witness: all
other parts are brought into range, and these two are what the bundle says.
-/
theorem load_wellFormed_iff {saved : Option Bundle} {c d : Console}
    (loaded : (load saved).perform c = (.ok (), d))
    : d.WellFormed
        ↔ ∃ found, ((inspect saved).perform c).1 = .ok found
          ∧ found.Proper c.cartridge := by
  cases looked : ((inspect saved).perform c).1 with
  | error error =>
      rw [load_refused looked] at loaded
      cases loaded
  | ok found =>
      rw [load_found looked] at loaded
      have restored := restored_of_runAll loaded
      obtain ⟨tac, tacRead, rate⟩ := restored.rate
      have inRange : d.cpu.registers.InRange := restored.registers ▸ inspect_inRange looked
      have phase : d.memory.timer.InPhase ↔ Timer.InPhase
          { tac := BitVec.ofInt 3 tac, prescaler := d.memory.timer.prescaler } := by
        rw [Timer.InPhase, Timer.InPhase, Timer.period, Timer.period, rate]
      rw [wellFormed_iff]
      constructor
      · rintro ⟨-, inPhase, reached⟩
        refine ⟨found, rfl, ?_, ?_⟩
        · intro tac' cycles tacRead' cyclesRead
          obtain rfl : tac = tac' := Except.ok.inj (tacRead.symm.trans tacRead')
          obtain rfl := Except.ok.inj (restored.prescaler.symm.trans cyclesRead)
          exact phase.mp inPhase
        · intro gate rom ram mode gateRead romRead ramRead modeRead
          obtain rfl := Except.ok.inj (restored.gate.symm.trans gateRead)
          obtain rfl := Except.ok.inj (restored.romBank.symm.trans romRead)
          obtain rfl := Except.ok.inj (restored.ramBank.symm.trans ramRead)
          obtain rfl := Except.ok.inj (restored.mode.symm.trans modeRead)
          exact restored.mapper ▸ reached
      · rintro ⟨found', same, proper⟩
        obtain rfl : found = found' := Except.ok.inj same
        refine ⟨inRange, phase.mpr (proper.phase _ _ tacRead restored.prescaler), ?_⟩
        rw [Cartridge.BanksReached, restored.mapper]
        exact proper.banks _ _ _ _ restored.gate restored.romBank restored.ramBank restored.mode

/-- A blank console accepts a bundle that leaves out what it can, and is well formed then. -/
theorem load_wellFormed_iff_scant
    : ∃ d, (load (some (packed (made 0 0x2000 [])))).perform blank = (.ok (), d)
        ∧ d.WellFormed := by
  have looked := inspect_made 0 0x2000 []
  have loaded : ∃ d, (load (some (packed (made 0 0x2000 [])))).perform blank = (.ok (), d) := by
    rw [load_found looked]
    exact ⟨_, (Stage.runAll_append_of_ok (runAll_made rfl rfl)).trans rfl⟩
  obtain ⟨d, loaded⟩ := loaded
  refine ⟨d, loaded, (load_wellFormed_iff loaded).mpr ⟨_, looked, ?_, ?_⟩⟩
  · rintro _ _ ⟨⟩ ⟨⟩
    exact ⟨by decide, by decide⟩
  · rintro _ _ _ _ ⟨⟩ ⟨⟩ ⟨⟩ ⟨⟩
    exact ⟨rfl, rfl, rfl, rfl⟩

/-- A timer that is said to be behind the start of its period. -/
def misphased : List (Text × Json) :=
  [("timer", .object [("tima_cycles", .int (-5))])]

/-- A blank console is well formed and accepts such a timer, but is not well formed then. -/
theorem load_misphased
    : blank.WellFormed
        ∧ ∃ d, (load (some (packed (made 0 0x2000 misphased)))).perform blank = (.ok (), d)
          ∧ ¬d.WellFormed := by
  have ran : ∃ d, Stage.runAll (stages (seen 0 0x2000 misphased)) blank = (.ok (), d) :=
    ⟨_, (Stage.runAll_append_of_ok (runAll_made rfl rfl)).trans rfl⟩
  obtain ⟨d, ran⟩ := ran
  refine ⟨?_, d, (load_found (inspect_made 0 0x2000 misphased)).trans ran, fun formed => ?_⟩
  · refine wellFormed_iff.mpr ⟨?_, ⟨by decide, by decide⟩, rfl, rfl, rfl, rfl⟩
    constructor <;> constructor <;> decide
  · have prescaler : (.ok (-5) : Except Misfit Int) = .ok d.memory.timer.prescaler :=
      (restored_of_runAll ran).prescaler
    have phase := formed.phase.1
    rw [← Except.ok.inj prescaler] at phase
    exact absurd phase (by decide)

end Console

end Handheld
