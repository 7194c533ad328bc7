import Handheld.Proofs.Console.Observation
import Handheld.Proofs.Console.RoundTrip

/-! A reset makes a new console.
Whatever has become of a console, after a reset it is a new one with the same external memory in it.
Only its clock is ahead.
-/

namespace Handheld

-----------------------------------------------------------------------------------------
-- What a host can have done
-----------------------------------------------------------------------------------------

namespace Console

/-- The consoles that a host can come by with an image if it makes use of all there is: operations,
loads of whatever bundle, other external memory, looks, and deliveries of what is announced.
-/
inductive Handled (image : Bytes) : Console → Prop
  | built {cartridge : Cartridge} {settings : Settings} {wishes : Settings.Wishes} {c : Console}
    (inserted : Cartridge.ofImage image = .ok cartridge)
    (built : ofCartridge cartridge settings wishes = .ok c)
    : Handled image c
  | operated {c : Console} (operation : Operation) (before : Handled image c)
    : Handled image (c.operate operation).2
  | loaded {c : Console} (saved : Option Bundle) (before : Handled image c)
    : Handled image ((load saved).perform c).2
  | restored {c d : Console} {bytes : Bytes} (restored : c.restoreRam bytes = .ok d)
    (before : Handled image c)
    : Handled image d
  | looked {c : Console} (look : Look) (before : Handled image c)
    : Handled image (c.look look).2
  | delivered {c : Console} (before : Handled image c)
    : Handled image { c with outbox := [] }

variable {build : Memory.Build} {c d : Console}

theorem Sound.operate (sound : c.Sound build) (operation : Operation)
    : (c.operate operation).2.Sound build := by
  cases operation with
  | step => exact sound.play .step
  | run limits => exact sound.run limits
  | runUntil goal | runFor cycles => exact sound.run _
  | read address => exact sound.play (.read address)
  | write address value => exact sound.play (.write address value)
  | interrupt source => exact sound.play (.interrupt source)
  | press key => exact sound.play (.press key)
  | release key => exact sound.play (.release key)
  | releaseAll => exact sound.play .releaseAll
  | requestStop => exact sound.play .requestStop
  | reset => exact sound.play .reset

/-- Soundness is about the machine alone. -/
theorem Sound.of_bare (sound : c.Sound build) (same : d.bare = c.bare) : d.Sound build := by
  have twins := twins_of_bare same
  refine ⟨?_, Eq.trans ?_ sound.build⟩
  · rw [twins.cpu]
    exact sound.inRange
  · have build : d.memory.unlogged.build = c.memory.unlogged.build := by rw [twins.memory]
    exact build

/-- Where external memory is replaced, nothing else changes. -/
theorem restoreRam_eq {bytes : Bytes} (restored : c.restoreRam bytes = .ok d)
    : ∃ size : bytes.size = c.cartridge.header.ramSize,
        d = c.onMemory fun memory =>
          { memory with cartridge := { c.cartridge with ram := bytes, ram_size := size } } := by
  cases taken : c.cartridge.restoreRam bytes with
  | error error =>
      rw [restoreRam, taken] at restored
      cases restored
  | ok cartridge =>
      rw [restoreRam, taken] at restored
      obtain ⟨size, rfl⟩ := Cartridge.restoreRam_ok taken
      exact ⟨size, (Except.ok.inj restored).symm⟩

/-- Every console that a host can come by is made of the image, and has registers in range. -/
theorem Handled.sound {image : Bytes} (handled : Handled image c)
    : ∃ cartridge, Cartridge.ofImage image = .ok cartridge ∧ c.Sound cartridge.build := by
  induction handled with
  | built inserted built => exact ⟨_, inserted, ofCartridge_sound built⟩
  | operated operation _ hypothesis =>
      obtain ⟨cartridge, inserted, sound⟩ := hypothesis
      exact ⟨cartridge, inserted, sound.operate operation⟩
  | loaded saved _ hypothesis =>
      obtain ⟨cartridge, inserted, sound⟩ := hypothesis
      exact ⟨cartridge, inserted, sound.play (.load saved)⟩
  | restored restored _ hypothesis =>
      obtain ⟨cartridge, inserted, sound⟩ := hypothesis
      obtain ⟨_, rfl⟩ := restoreRam_eq restored
      exact ⟨cartridge, inserted, sound.inRange, sound.build⟩
  | looked look _ hypothesis =>
      obtain ⟨cartridge, inserted, sound⟩ := hypothesis
      exact ⟨cartridge, inserted, sound.of_bare (look_bare look _)⟩
  | delivered _ hypothesis =>
      obtain ⟨cartridge, inserted, sound⟩ := hypothesis
      exact ⟨cartridge, inserted, sound.inRange, sound.build⟩

end Console

-----------------------------------------------------------------------------------------
-- What a reset leaves behind
-----------------------------------------------------------------------------------------

/-- A reset leaves nothing of a cartridge but its image and external memory. -/
theorem Cartridge.reset_eq {k k' : Cartridge} (header : k.header = k'.header)
    (rom : k.rom = k'.rom) (ram : k.ram = k'.ram)
    : k.reset = k'.reset := by
  obtain ⟨_, _, _, _, _, _, _, _, _⟩ := k
  obtain ⟨_, _, _, _, _, _, _, _, _⟩ := k'
  cases header
  cases rom
  cases ram
  rfl

/-- A reset leaves nothing of a memory but what it is made of and external memory. -/
theorem Memory.powerOn_agrees {m n : Memory} (build : m.build = n.build)
    (ram : m.cartridge.ram = n.cartridge.ram)
    : (Console.powerOnMemory m).Agrees (Console.powerOnMemory n) where
  cartridge := Cartridge.reset_eq (congrArg Build.header build) (congrArg Build.rom build) ram
  timer := rfl
  wram := rfl
  hram := rfl
  readCount := rfl
  writeCount := rfl
  serial := ⟨rfl, rfl, rfl, rfl⟩
  joypad := rfl
  vram := congrArg Build.vram build
  oam := congrArg Build.oam build
  audio := congrArg Build.audio build
  video := congrArg Build.video build

namespace Console

variable {c : Console} {cartridge : Cartridge} {settings : Settings} {wishes : Settings.Wishes}
variable {new : Console}

/-- A console that has been reset and a new one of the same make with the same external memory are
twins.
-/
theorem reset_twins (build : c.memory.build = cartridge.build)
    (built : ofCartridge cartridge settings wishes = .ok new)
    : ∃ fresh, new.restoreRam c.reset.cartridge.ram = .ok fresh
        ∧ Twins Memory.Agrees c.clock.cycles c.reset fresh := by
  obtain ⟨n, _, _, _, rfl, made, start, _⟩ := ofCartridge_eq built
  have same : c.memory.build = n.memory.build := build.trans made.symm
  have size : c.cartridge.ram.size = n.cartridge.header.ramSize :=
    c.cartridge.ram_size.trans (congrArg (·.header.ramSize) same)
  let filled : Cartridge := { n.cartridge with ram := c.cartridge.ram, ram_size := size }
  have taken : n.reset.cartridge.restoreRam c.reset.cartridge.ram = .ok filled.reset :=
    dif_pos (size.trans n.cartridge.ram_size.symm)
  refine ⟨_, congrArg (Except.map fun cartridge => onMemory (fun memory => { memory with cartridge })
    _) taken, ?_⟩
  exact {
    cpu := rfl
    interrupts := rfl
    memory := Memory.powerOn_agrees (n := { n.memory with cartridge := filled }) same rfl
    fault := rfl
    stopRequested := rfl
    clock := by
      have zero : n.clock.cycles = 0 := congrArg Clock.cycles start
      exact ((congrArg (· + c.clock.cycles) zero).trans (Int.zero_add _)).symm
  }

/-- After a reset a console is a new one with the image and with the external memory that was there.
Both give the same results to any sequence of operations and stay equal in every part of the machine
but the clock, which is ahead by what it had counted before the reset, as are the positions at which
runs are to end.
-/
theorem reset_fresh {image : Bytes} (handled : Handled image c)
    (inserted : Cartridge.ofImage image = .ok cartridge)
    (built : ofCartridge cartridge settings wishes = .ok new)
    : ∃ fresh, new.restoreRam c.reset.cartridge.ram = .ok fresh
        ∧ ∀ operations,
            (operateAll (operations.map (·.later c.clock.cycles)) c.reset).1
              = (operateAll operations fresh).1
            ∧ Twins Memory.Agrees c.clock.cycles
                (operateAll (operations.map (·.later c.clock.cycles)) c.reset).2
                (operateAll operations fresh).2 := by
  obtain ⟨own, inserted', sound⟩ := handled.sound
  obtain rfl : own = cartridge := Except.ok.inj (inserted'.symm.trans inserted)
  obtain ⟨fresh, filled, twins⟩ := reset_twins sound.build built
  exact ⟨fresh, filled, twins.operateAll Memory.Agrees.congruence⟩

/-- A console that has been asked to stop and to serve an interrupt is as new after a reset. -/
theorem reset_fresh_requested
    : ∃ c new fresh : Console, Handled blankImage c ∧ c.stopRequested = true
        ∧ c.interrupts.counts.timer = 1 ∧ new.restoreRam c.reset.cartridge.ram = .ok fresh
        ∧ ∀ operations,
            (operateAll (operations.map (·.later c.clock.cycles)) c.reset).1
              = (operateAll operations fresh).1 := by
  obtain ⟨cartridge, wishes, new, inserted, built, _⟩ := built_blank
  have begun : Handled blankImage new := .built inserted built
  have handled := (begun.operated (.interrupt .timer)).operated .requestStop
  obtain ⟨fresh, filled, same⟩ := reset_fresh handled inserted built
  refine ⟨_, new, fresh, handled, rfl, ?_, filled, fun operations => (same operations).1⟩
  obtain ⟨_, _, _, _, rfl, _, _⟩ := ofCartridge_eq built
  rfl

end Console

end Handheld
