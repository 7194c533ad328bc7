import Handheld.Proofs.Console.Stages
import Handheld.Proofs.Cpu.Packing
import Handheld.Proofs.Memory.Agreement
import Handheld.Proofs.Text.Hexadecimal

/-! Restoring what has been saved.
Each part of a machine that is taken over from its own saved form comes out as it was.
-/

namespace Handheld

open Cpu (IsByte IsWord)
open Console (fromTable)

-----------------------------------------------------------------------------------------
-- Registers as bytes
-----------------------------------------------------------------------------------------

namespace Cpu

namespace Snapshot

/-- Registers in range can be packed, and are the same when they have been unpacked, apart from how
the flags were set.
-/
theorem unpack_pack {μ : Type} {core : Core μ} (inRange : core.cpu.registers.InRange)
    : ∃ bytes snapshot, (ofCore core).pack = .ok bytes ∧ unpack bytes = .ok snapshot
        ∧ snapshot.registers = core.cpu.registers.settled := by
  have fits : (ofCore core).Fits := {
    pc := inRange.pc, sp := inRange.sp, a := inRange.a, f := core.cpu.registers.f_isByte.1
    b := inRange.b, c := inRange.c, d := inRange.d, e := inRange.e, h := inRange.h
    l := inRange.l }
  obtain ⟨bytes, snapshot, packed, unpacked, same, flagwise⟩ := exists_unpack fits
  refine ⟨bytes, snapshot, packed, unpacked, ?_⟩
  simp only [registerFields, ofCore, List.cons.injEq, Prod.mk.injEq, true_and, and_true] at same
  obtain ⟨pc, sp, a, f, b, c, d, e, h, l⟩ := same
  rw [registers, pc, sp, a, f, b, c, d, e, h, l, flagwise, Registers.f, Flags.ofInt_toInt]
  rfl

end Snapshot

end Cpu

-----------------------------------------------------------------------------------------
-- Devices
-----------------------------------------------------------------------------------------

/-- Stages that need a table which is there do what they do with the table. -/
theorem Console.runAll_fromTable {σ : Type} {description table : Json} {name : String}
    (found : description.member name (.object []) = .ok table) (stages : List (Json → Stage σ))
    (s : σ)
    : Stage.runAll (fromTable description name stages) s
        = Stage.runAll (stages.map (· table)) s := by
  rw [fromTable, found, Stage.runAll_after]

theorem Timer.tac_control : ∀ tac : BitVec 3,
    BitVec.ofInt 3 (Byte.value (0xF8#8 ||| tac.setWidth 8)) = tac := by
  decide

theorem Timer.runAll_saved (t u : Timer)
    : Stage.runAll (stages.map (· t.saved)) u = (.ok (), t) := by
  have taken : Stage.runAll (stages.map (· t.saved)) u = (.ok (), {
      divider := Word.ofInt t.divider.value
      tima := Byte.ofInt t.tima.value
      tma := Byte.ofInt t.tma.value
      tac := BitVec.ofInt 3 t.control.value
      prescaler := t.prescaler
      overflows := t.overflows }) := rfl
  rw [taken, Word.ofInt_value, Byte.ofInt_value, Byte.ofInt_value, control, tac_control]

theorem Key.ofName?_name (key : Key) : ofName? key.name = some key := by
  cases key <;> rfl

/-- Names of keys are read back. -/
theorem Key.mapM_toNamed (keys : List Key)
    : ((keys.map Key.name).map fun (name : String) => Json.string name).mapM
        (·.toNamed Key.ofName?) = .ok keys := by
  induction keys with
  | nil => rfl
  | cons key rest hypothesis =>
      rw [List.map_cons, List.map_cons, List.mapM_cons, hypothesis, Json.toNamed, ofName?_name]
      rfl

theorem Joypad.held_listed : ∀ held : BitVec 8,
    (Key.all.filter fun key => held.getLsbD key.index).foldl (fun held key => held ||| key.mask) 0
      = held := by
  decide +kernel

theorem Joypad.bit_lines : ∀ direction button : Bool,
    Bits.bit 4 (16 * direction.toNat + 32 * button.toNat : Nat) = direction
      ∧ Bits.bit 5 (16 * direction.toNat + 32 * button.toNat : Nat) = button := by
  decide

theorem Joypad.runAll_saved (j k : Joypad)
    : Stage.runAll (stages.map (· j.saved)) k = (.ok (), j) := by
  have keys : (listed j.saved).mapError Error.misfit = .ok (Key.all.filter j.isHeld) :=
    congrArg _ (Key.mapM_toNamed _)
  have first : (Stage.taking (j.saved.intMember "select" 0x30) write).read k = .ok j.lines := rfl
  have second : (Stage.taking (listed j.saved) fun keys joypad =>
        { joypad with held := keys.foldl (fun held key => held ||| key.mask) 0 }).read
      (k.write j.lines) = .ok (Key.all.filter j.isHeld) := keys
  have taken : Stage.runAll (stages.map (· j.saved)) k = (.ok (), {
      directionLine := Bits.bit 4 j.lines
      buttonLine := Bits.bit 5 j.lines
      held := (Key.all.filter j.isHeld).foldl (fun held key => held ||| key.mask) 0 }) :=
    (Stage.runAll_cons_of_read first).trans (Stage.runAll_cons_of_read second)
  have held := held_listed j.held
  have lines := bit_lines j.directionLine j.buttonLine
  rw [taken, Joypad.lines, lines.1, lines.2]
  exact congrArg (fun held => (Except.ok (), { j with held })) held

theorem Interrupts.runAll_saved (i other : Interrupts)
    : Stage.runAll (stages.map (· i.saved)) other = (.ok (), i) := by
  have taken : Stage.runAll (stages.map (· i.saved)) other = (.ok (), {
      enable := Byte.ofInt i.enable.value
      requests := BitVec.ofInt 5 i.requests.toNat
      master := i.master
      counts := i.counts }) := rfl
  rw [taken, Byte.ofInt_value, Bits.ofInt_toNat]

/-- A cartridge of the same image takes over memory and bank registers. -/
theorem Cartridge.runAll_saved {k l : Cartridge} (header : l.header = k.header)
    (rom : l.rom = k.rom)
    : Stage.runAll (Console.cartridgeStages (Console.savedCartridge k) k.ram) l = (.ok (), k) := by
  obtain ⟨header, rom, ram, ramEnabled, romBank, ramBank, mode, rom_size, ram_size⟩ := k
  obtain ⟨_, _, ram', _, _, _, _, _, ram_size'⟩ := l
  subst header rom
  have fits : ram.size = ram'.size := ram_size.trans ram_size'.symm
  refine (Stage.runAll_cons_of_read (dif_pos fits)).trans ?_
  refine (Console.runAll_fromTable rfl _ _).trans ?_
  cases ramEnabled <;> rfl

theorem Serial.bit_sc : ∀ transfer clock : Bool,
    Bits.bit 7 (Byte.value (BitVec.ofNat 8 (128 * transfer.toNat + clock.toNat))) = transfer
      ∧ Bits.bit 0 (Byte.value (BitVec.ofNat 8 (128 * transfer.toNat + clock.toNat))) = clock := by
  decide

theorem Json.toSpelledBytes_hex (bytes : List Byte)
    : toSpelledBytes (.string (Text.hexOfBytes bytes)) = .ok bytes := by
  rw [toSpelledBytes, Text.bytesOfHex?_hexOfBytes]

/-- A memory takes over a serial link. -/
theorem Serial.runAll_saved (s : Serial) (m : Memory)
    : Stage.runAll [Console.serialStage (Console.savedSerial s)] m
        = (.ok (), m.onPeripherals fun p =>
            { p with serial := p.serial.restore s.sb.value s.sc.value s.output }) := by
  have output : (Console.savedSerial s).member "output" (.string "") >>= Json.toSpelledBytes
      = .ok s.output := Json.toSpelledBytes_hex s.output
  have sb : (Console.savedSerial s).intMember "sb" 0 = .ok s.sb.value := rfl
  have sc : (Console.savedSerial s).intMember "sc" 0 = .ok s.sc.value := rfl
  rw [Stage.runAll, Console.serialStage, sb, Stage.run_after, sc, Stage.run_after, output]
  rfl

/-- A serial link takes over registers and output, whoever listens to it. -/
theorem Serial.agrees_restore (s t : Serial)
    : s.Agrees (t.restore s.sb.value s.sc.value s.output) where
  sb := s.sb.ofInt_value.symm
  transfer := (bit_sc s.transfer s.internalClock).1.symm
  internalClock := (bit_sc s.transfer s.internalClock).2.symm
  sent := s.sent.reverse_reverse.symm

-----------------------------------------------------------------------------------------
-- Memories
-----------------------------------------------------------------------------------------

theorem Window.restore_ok {size : Nat} {window : Window size} {bytes : Bytes}
    (fits : bytes.size = size) (declared : window.declared = size)
    : window.restore bytes = .ok { window with data := ⟨bytes, fits⟩ } :=
  dif_pos ⟨fits, declared⟩

/-- A window becomes another one by its bytes if the two are filled anew alike. -/
theorem Window.restore_saved {size : Nat} {window other : Window size}
    (same : other.reset = window.reset) (declared : other.declared = size)
    : other.restore window.data.toArray = .ok window := by
  obtain ⟨_, _, _, _, data⟩ := window
  obtain ⟨rfl, rfl, rfl, rfl, _⟩ := Window.mk.inj same
  exact restore_ok data.size_toArray declared

/-- Members that the windows accept are taken over. -/
theorem Memory.runAll_stages {opened : Bundle.Opened} {m : Memory} {readCount writeCount : Int}
    {vram : Window 0x2000} {oam : Window 0xA0} {audio : Window 0x30} {video : Window 0x0C}
    (wram : Vector Byte 0x2000) (hram : Vector Byte 0x7F)
    (reads : opened.description.intMember "memory_reads" 0 = .ok readCount)
    (writes : opened.description.intMember "memory_writes" 0 = .ok writeCount)
    (vram_ok : m.peripherals.vram.restore opened.vram = .ok vram)
    (oam_ok : m.peripherals.oam.restore opened.oam = .ok oam)
    (audio_ok : m.peripherals.audio.restore (opened.devices.extract 0x10 0x40) = .ok audio)
    (video_ok : m.peripherals.video.restore (opened.devices.extract 0x40 0x4C) = .ok video)
    : Stage.runAll (stages opened wram hram) m
        = (.ok (), {
          m with
          wram, hram, readCount, writeCount
          peripherals := { m.peripherals with vram, oam, audio, video } }) := by
  have always : (Stage.always fun m : Memory => { m with wram, hram }).read m = .ok () := rfl
  refine (Stage.runAll_cons_of_read always).trans ?_
  refine (Stage.runAll_cons_of_read (Stage.read_taking reads _ _)).trans ?_
  refine (Stage.runAll_cons_of_read (Stage.read_taking writes _ _)).trans ?_
  refine (Stage.runAll_cons_of_read vram_ok).trans ?_
  refine (Stage.runAll_cons_of_read oam_ok).trans ?_
  refine (Stage.runAll_cons_of_read audio_ok).trans ?_
  exact Stage.runAll_cons_of_read video_ok

theorem Memory.place_audio : ∀ i : Fin 0x30,
    place (Address.ofInt (0xFF00 + (0x10 + i.val : Nat))) = .audio i := by
  decide

theorem Memory.place_video : ∀ i : Fin 0x0C,
    place (Address.ofInt (0xFF00 + (0x40 + i.val : Nat))) = .video i := by
  decide

/-- The device area holds the bytes of a window in their place. -/
theorem Memory.devices_extract {size : Nat} {m : Memory} {interrupts : Interrupts}
    {window : Window size} {cell : Fin size → Place} {offset : Nat}
    (places : ∀ i, place (Address.ofInt (0xFF00 + (offset + i.val : Nat))) = cell i)
    (shows : ∀ i, m.get interrupts (cell i) = window.get i) (fits : offset + size ≤ 0x80)
    : (m.devices interrupts).toArray.extract offset (offset + size) = window.data.toArray := by
  apply Array.ext
  · simp only [Array.size_extract, List.size_toArray, devices, List.length_map, List.length_range,
      Vector.size_toArray]
    omega
  · intro i _ bound
    rw [Vector.size_toArray] at bound
    have shown := (congrArg (m.get interrupts) (places ⟨i, bound⟩)).trans (shows ⟨i, bound⟩)
    rw [Array.getElem_extract]
    simp only [devices, List.getElem_toArray, List.getElem_map, List.getElem_range]
    exact shown

theorem Memory.devices_audio (m : Memory) (interrupts : Interrupts)
    : (m.devices interrupts).toArray.extract 0x10 0x40 = m.peripherals.audio.data.toArray := by
  have shows : ∀ i, m.get interrupts (.audio i) = m.peripherals.audio.get i := fun _ => rfl
  have slice := devices_extract place_audio shows (by decide)
  exact slice

theorem Memory.devices_video (m : Memory) (interrupts : Interrupts)
    : (m.devices interrupts).toArray.extract 0x40 0x4C = m.peripherals.video.data.toArray := by
  have shows : ∀ i, m.get interrupts (.video i) = m.peripherals.video.get i := fun _ => rfl
  exact devices_extract place_video shows (by decide)

end Handheld
