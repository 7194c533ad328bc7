import Handheld.Memory.Basic
import Handheld.Proofs.Cpu.Congruence

/-! Memories that agree in everything a program can tell.
They may differ in their access logs and in what a listener on the serial link has heard, which no
read ever shows.
-/

namespace Handheld

/-- Two serial links are in the same state, whoever listens to them. -/
structure Serial.Agrees (s t : Serial) : Prop where
  sb : s.sb = t.sb
  transfer : s.transfer = t.transfer
  internalClock : s.internalClock = t.internalClock
  sent : s.sent = t.sent

/-- Two memories hold the same, in all devices as well, and have seen as many accesses. -/
structure Memory.Agrees (m n : Memory) : Prop where
  cartridge : m.cartridge = n.cartridge
  timer : m.timer = n.timer
  wram : m.wram = n.wram
  hram : m.hram = n.hram
  readCount : m.readCount = n.readCount
  writeCount : m.writeCount = n.writeCount
  serial : m.peripherals.serial.Agrees n.peripherals.serial
  joypad : m.peripherals.joypad = n.peripherals.joypad
  vram : m.peripherals.vram = n.peripherals.vram
  oam : m.peripherals.oam = n.peripherals.oam
  audio : m.peripherals.audio = n.peripherals.audio
  video : m.peripherals.video = n.peripherals.video

namespace Serial.Agrees

variable {s t : Serial}

theorem get (agrees : s.Agrees t) (register : Register) : s.get register = t.get register := by
  cases register with
  | data => exact agrees.sb
  | control =>
      rw [Serial.get, Serial.get, Serial.sc, Serial.sc, agrees.transfer, agrees.internalClock]

/-- A transfer raises the same request on both links. -/
theorem set (agrees : s.Agrees t) (register : Register) (value : Byte) (interrupts : Interrupts)
    : (Serial.set register value s interrupts).2 = (Serial.set register value t interrupts).2
        ∧ (Serial.set register value s interrupts).1.Agrees
            (Serial.set register value t interrupts).1 := by
  cases register with
  | data => exact ⟨rfl, { agrees with sb := rfl }⟩
  | control =>
      rw [Serial.set, Serial.set]
      split
      · exact ⟨rfl,
          { sb := rfl
            transfer := rfl
            internalClock := rfl
            sent := by simp only [Serial.complete, agrees.sb, agrees.sent] }⟩
      · exact ⟨rfl, { agrees with transfer := rfl, internalClock := rfl }⟩

end Serial.Agrees

namespace Memory.Agrees

variable {m n : Memory}

/-- What one memory answers at a place, the other one answers too. -/
theorem get (agrees : m.Agrees n) (interrupts : Interrupts) (place : Place)
    : m.get interrupts place = n.get interrupts place := by
  cases place with
  | serial register => exact agrees.serial.get register
  | _ =>
      simp only [Memory.get, agrees.cartridge, agrees.timer, agrees.wram, agrees.hram,
        agrees.joypad, agrees.vram, agrees.oam, agrees.audio, agrees.video]

/-- A write to a place keeps memories in agreement and does the same to the interrupts. -/
theorem set (agrees : m.Agrees n) (place : Place) (value : Byte) (interrupts : Interrupts)
    : (m.set place value interrupts).1 = (n.set place value interrupts).1
        ∧ (m.set place value interrupts).2.Agrees (n.set place value interrupts).2 := by
  cases place with
  | rom address =>
      exact ⟨rfl, { agrees with cartridge := congrArg (·.control address value) agrees.cartridge }⟩
  | vram offset => exact ⟨rfl, { agrees with vram := congrArg (·.set offset value) agrees.vram }⟩
  | cartridgeRam offset =>
      exact ⟨rfl, { agrees with cartridge := congrArg (·.writeRam offset value) agrees.cartridge }⟩
  | wram offset =>
      exact ⟨rfl,
        { agrees with wram := congrArg (·.set offset value offset.isLt) agrees.wram }⟩
  | oam offset => exact ⟨rfl, { agrees with oam := congrArg (·.set offset value) agrees.oam }⟩
  | joypad =>
      exact ⟨rfl, { agrees with joypad := congrArg (Joypad.write value.value) agrees.joypad }⟩
  | serial register =>
      obtain ⟨same, serial⟩ := agrees.serial.set register value interrupts
      exact ⟨same, { agrees with serial := serial }⟩
  | timer register =>
      exact ⟨rfl, { agrees with timer := congrArg (·.set register value) agrees.timer }⟩
  | interruptRequests => exact ⟨rfl, agrees⟩
  | audio offset => exact ⟨rfl, { agrees with audio := congrArg (·.set offset value) agrees.audio }⟩
  | video offset => exact ⟨rfl, { agrees with video := congrArg (·.set offset value) agrees.video }⟩
  | deadArea | vacant => exact ⟨rfl, agrees⟩
  | hram offset =>
      exact ⟨rfl,
        { agrees with hram := congrArg (·.set offset value offset.isLt) agrees.hram }⟩
  | interruptEnable => exact ⟨rfl, agrees⟩

/-- A read answers the same and is counted alike. -/
theorem read (agrees : m.Agrees n) (address : Int) (interrupts : Interrupts)
    : (m.read address interrupts).1 = (n.read address interrupts).1
        ∧ (m.read address interrupts).2.Agrees (n.read address interrupts).2 :=
  ⟨agrees.get interrupts _, { agrees with readCount := congrArg (· + 1) agrees.readCount }⟩

/-- A write is counted alike and does the same. -/
theorem write (agrees : m.Agrees n) (address value : Int) (interrupts : Interrupts)
    : (m.write address value interrupts).1 = (n.write address value interrupts).1
        ∧ (m.write address value interrupts).2.Agrees (n.write address value interrupts).2 := by
  have noted : Memory.Agrees
      { m with
        writeCount := m.writeCount + 1
        log := m.log.noteWrite (Address.ofInt address) (Byte.ofInt value) }
      { n with
        writeCount := n.writeCount + 1
        log := n.log.noteWrite (Address.ofInt address) (Byte.ofInt value) } :=
    { agrees with writeCount := congrArg (· + 1) agrees.writeCount }
  exact noted.set _ _ interrupts

end Memory.Agrees

/-- What is around a processor agrees: the interrupts are the same and the memories hold the same. -/
def Memory.AgreeAround (s t : Interrupts × Memory) : Prop :=
  s.1 = t.1 ∧ s.2.Agrees t.2

/-- A processor cannot tell memories apart that agree. -/
theorem Memory.bus_congruent : Memory.bus.Congruent Memory.AgreeAround Memory.bus where
  master := fun agrees => congrArg Interrupts.master agrees.1
  pending := fun agrees => congrArg Interrupts.pending agrees.1
  setMaster := fun agrees enabled => ⟨congrArg (·.setMaster enabled) agrees.1, agrees.2⟩
  acknowledge := fun agrees source => ⟨congrArg (·.acknowledge source) agrees.1, agrees.2⟩
  answer := by
    rintro ⟨interrupts, m⟩ ⟨_, n⟩ ⟨rfl, agrees⟩ address
    exact congrArg (fun byte : Byte => byte.value % 256) (agrees.read address.toNat interrupts).1
  read := by
    rintro ⟨interrupts, m⟩ ⟨_, n⟩ ⟨rfl, agrees⟩ address
    exact ⟨rfl, (agrees.read address.toNat interrupts).2⟩
  write := by
    rintro ⟨interrupts, m⟩ ⟨_, n⟩ ⟨rfl, agrees⟩ address value
    exact agrees.write address.toNat value.toNat interrupts

end Handheld
