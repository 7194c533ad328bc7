import Handheld.Proofs.Console.Reachable
import Handheld.Proofs.Timer.Counting

/-! What accesses and passing cycles cannot break in a memory.
The phase of the timer, the bank registers and the control register of the serial link depend on
what was written before, so each of them is kept by every write, at whatever address.
-/

namespace Handheld

-----------------------------------------------------------------------------------------
-- The serial link
-----------------------------------------------------------------------------------------

/-- No transfer on the internal clock is under way, as it is complete at once. -/
def Serial.Rests (s : Serial) : Prop := (s.transfer && s.internalClock) = false

/-- A link that rests has one of three numbers in its control register. -/
theorem Serial.rests_iff {s : Serial} : s.Rests ↔ s.sc ∈ [0x00, 0x01, 0x80] := by
  rw [Rests, sc]
  cases s.transfer <;> cases s.internalClock <;> decide

theorem Serial.Rests.set {s : Serial} (rests : s.Rests) (register : Register) (value : Byte)
    (interrupts : Interrupts)
    : (Serial.set register value s interrupts).1.Rests := by
  cases register with
  | data => exact rests
  | control =>
      rw [Serial.set]
      split
      case isTrue => rfl
      case isFalse idle => exact Bool.eq_false_iff.mpr idle

theorem Serial.Agrees.rests {s t : Serial} (agrees : s.Agrees t) (rests : s.Rests) : t.Rests := by
  rw [Rests, ← agrees.transfer, ← agrees.internalClock]
  exact rests

-----------------------------------------------------------------------------------------
-- Everything behind the bus
-----------------------------------------------------------------------------------------

theorem Cartridge.BanksReached.writeRam {k : Cartridge} (reached : k.BanksReached) (offset : Nat)
    (value : Byte)
    : (k.writeRam offset value).BanksReached := by
  rw [Cartridge.writeRam]
  split <;> exact reached

namespace Memory

/-- A memory of a build, with devices that hold what the hardware can hold. -/
structure Steady (build : Build) (m : Memory) : Prop where
  build : m.build = build
  phase : m.timer.InPhase
  banks : m.cartridge.BanksReached
  link : m.peripherals.serial.Rests

namespace Steady

variable {build : Build} {m : Memory}

/-- No write to a place breaks a device. -/
theorem set (steady : m.Steady build) (place : Place) (value : Byte) (interrupts : Interrupts)
    : (m.set place value interrupts).2.Steady build := by
  have built := (m.set_build place value interrupts).trans steady.build
  cases place with
  | rom address => exact ⟨built, steady.phase, steady.banks.control address value, steady.link⟩
  | cartridgeRam offset =>
      exact ⟨built, steady.phase, steady.banks.writeRam offset value, steady.link⟩
  | timer register => exact ⟨built, steady.phase.set register value, steady.banks, steady.link⟩
  | serial register =>
      exact ⟨built, steady.phase, steady.banks, steady.link.set register value interrupts⟩
  | _ => exact ⟨built, steady.phase, steady.banks, steady.link⟩

theorem write (steady : m.Steady build) (address value : Int) (interrupts : Interrupts)
    : (m.write address value interrupts).2.Steady build := by
  have noted : Steady build
      { m with
        writeCount := m.writeCount + 1
        log := m.log.noteWrite (Address.ofInt address) (Byte.ofInt value) } := { steady with }
  exact noted.set _ _ interrupts

/-- A memory that agrees with another one of its build is as steady as that one. -/
theorem of_agrees {n : Memory} (steady : m.Steady build) (agrees : m.Agrees n)
    (built : n.build = build)
    : n.Steady build where
  build := built
  phase := agrees.timer ▸ steady.phase
  banks := agrees.cartridge ▸ steady.banks
  link := agrees.serial.rests steady.link

/-- Power-on takes no account of what the devices have held. -/
theorem powerOn (built : m.build = build) : (Console.powerOnMemory m).Steady build where
  build := built
  phase := Timer.inPhase_of_zero rfl
  banks := m.cartridge.reset_banksReached
  link := rfl

end Steady

/-- No access to the bus breaks a device. -/
theorem bus_keeps_steady (build : Build) : bus.Keeps (fun around => around.2.Steady build) where
  setMaster steady _ := steady
  acknowledge steady _ := steady
  read steady _ := { steady with }
  write steady address value := steady.write address.toNat value.toNat _

end Memory

end Handheld
