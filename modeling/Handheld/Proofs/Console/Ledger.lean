import Handheld.Proofs.Console.Genuine
import Handheld.Proofs.Memory.Signals
import Handheld.Proofs.Peripherals.Matrix
import Mathlib.Logic.Function.Basic

/-! Where requests of interrupts come from.
A ledger is kept of what the host does, and the controller's own counts are compared with it and with
what the devices have counted.
-/

namespace Handheld

-----------------------------------------------------------------------------------------
-- The ledger of a host
-----------------------------------------------------------------------------------------

namespace Console

/-- What a host has done since the last reset of a machine, of all that asks for interrupts. -/
structure Ledger where
  requests : Source → Nat := fun _ => 0
  /-- Only keys that were up count. -/
  presses : Nat := 0

namespace Ledger

/-- Enters a turn that is taken on a console. -/
def enter (ledger : Ledger) (c : Console) : Turn → Ledger
  | .interrupt source =>
    { ledger with
      requests := Function.update ledger.requests source (ledger.requests source + 1) }
  | .press key =>
    if c.memory.peripherals.joypad.isHeld key then ledger
    else { ledger with presses := ledger.presses + 1 }
  | .reset => {}
  | _ => ledger

/-- How many requests of a source there must have been: those of the host, and besides one for every
overflow of the timer, every byte sent and every press.
-/
def due (ledger : Ledger) (m : Memory) : Source → Int
  | .timer => m.timer.overflows + ledger.requests .timer
  | .serial => m.peripherals.serial.output.length + ledger.requests .serial
  | .joypad => ledger.presses + ledger.requests .joypad
  | .vblank => ledger.requests .vblank
  | .lcdStat => ledger.requests .lcdStat

/-- The controller has counted what is due. -/
def Balanced (ledger : Ledger) (around : Interrupts × Memory) : Prop :=
  ∀ source, around.1.counts.get source = ledger.due around.2 source

variable {ledger : Ledger} {interrupts : Interrupts} {m : Memory}

/-- A request is counted where one more is due. -/
theorem Balanced.request {later : Ledger} {n : Memory} {source : Source}
    (balanced : ledger.Balanced (interrupts, m))
    (due : ∀ other, later.due n other = ledger.due m other + if other = source then 1 else 0)
    : later.Balanced (interrupts.request source, n) := by
  intro other
  have before : interrupts.counts.get other = ledger.due m other := balanced other
  rw [due, ← before]
  exact interrupts.counts.get_bump source other

theorem due_interrupt (ledger : Ledger) (c : Console) (m : Memory) (source other : Source)
    : (ledger.enter c (.interrupt source)).due m other
      = ledger.due m other + if other = source then 1 else 0 := by
  cases other <;> cases source <;> simp [enter, due, Function.update, Int.add_assoc]

theorem due_press (ledger : Ledger) (m : Memory) (other : Source)
    : ({ ledger with presses := ledger.presses + 1 } : Ledger).due m other
      = ledger.due m other + if other = .joypad then 1 else 0 := by
  cases other <;> simp [due]
  omega

/-- Only a byte that is sent asks for an interrupt, of all that can be written. -/
theorem Balanced.set (balanced : ledger.Balanced (interrupts, m)) (place : Memory.Place)
    (value : Byte)
    : ledger.Balanced (m.set place value interrupts) := by
  cases place with
  | serial register =>
      cases register with
      | data => exact balanced
      | control =>
          rw [Memory.set, Serial.set]
          dsimp only
          split
          case isFalse => exact balanced
          case isTrue =>
            refine balanced.request fun other => ?_
            cases other <;> simp [due, Serial.complete, Serial.output, Memory.onPeripherals]
            omega
  | timer register =>
      intro source
      refine (balanced source).trans ?_
      cases source <;> cases register <;> rfl
  | _ => exact balanced

theorem Balanced.write (balanced : ledger.Balanced (interrupts, m)) (address value : Int)
    : ledger.Balanced (m.write address value interrupts) := by
  have noted : ledger.Balanced (interrupts,
      { m with
        writeCount := m.writeCount + 1
        log := m.log.noteWrite (Address.ofInt address) (Byte.ofInt value) }) := balanced
  exact noted.set _ _

/-- No access unbalances a ledger. -/
theorem bus_keeps_balanced (ledger : Ledger) : Memory.bus.Keeps ledger.Balanced where
  setMaster balanced _ := balanced
  acknowledge balanced _ := balanced
  read balanced _ := balanced
  write balanced address value := balanced.write address.toNat value.toNat

/-- The timer asks once for every overflow that it counts. -/
theorem Balanced.tick (balanced : ledger.Balanced (interrupts, m)) (cycles : Int)
    : ledger.Balanced
        ((m.timer.tick cycles interrupts).2,
          { m with timer := (m.timer.tick cycles interrupts).1 }) := by
  obtain ⟨count, requested, overflowed⟩ := m.timer.tick_raised cycles interrupts
  intro source
  have before : interrupts.counts.get source = ledger.due m source := balanced source
  dsimp only at requested overflowed ⊢
  rw [requested, interrupts.iterate_request_counts, before]
  cases source <;> simp [due, overflowed]
  omega

end Ledger

-----------------------------------------------------------------------------------------
-- What turns enter
-----------------------------------------------------------------------------------------

variable {ledger : Ledger} {c d : Console}

theorem step_balanced (balanced : c.core.Within ledger.Balanced)
    : c.step.2.core.Within ledger.Balanced :=
  step_within ledger.bus_keeps_balanced
    (fun within cycles => ⟨within.inRange, within.around.tick cycles⟩) balanced

/-- After every turn the ledger is balanced again, if the turn has been entered. -/
theorem play_balanced (balanced : c.core.Within ledger.Balanced) {turn : Turn}
    (own : ∀ saved, turn ≠ .load saved)
    : (c.play turn).2.core.Within (ledger.enter c turn).Balanced := by
  have inRange := balanced.inRange
  have around := balanced.around
  cases turn with
  | step => exact step_balanced balanced
  | write address value => exact ⟨inRange, around.write address value⟩
  | interrupt source => exact ⟨inRange, around.request (ledger.due_interrupt c c.memory source)⟩
  | press key =>
      refine ⟨inRange, ?_⟩
      rw [Ledger.enter]
      split
      case isTrue held =>
          have unchanged : (c.press key).interrupts = c.interrupts :=
            congrArg Prod.snd (if_pos held)
          intro source
          exact (congrArg (·.counts.get source) unchanged).trans (around source)
      case isFalse up =>
          have requested : (c.press key).interrupts = c.interrupts.request .joypad :=
            congrArg Prod.snd (if_neg up)
          intro source
          exact (congrArg (·.counts.get source) requested).trans
            (around.request (ledger.due_press c.memory) source)
  | reset =>
      exact ⟨Cpu.Registers.powerOn_inRange, fun source => by cases source <;> rfl⟩
  | load saved => exact absurd rfl (own saved)
  | read | release | releaseAll | requestStop => exact ⟨inRange, around⟩

theorem run_balanced (balanced : c.core.Within ledger.Balanced) (limits : Limits)
    : (c.run limits).2.core.Within ledger.Balanced :=
  runFrom_keeps (I := fun c => c.core.Within ledger.Balanced) step_balanced
    (fun balanced => ⟨balanced.inRange, balanced.around⟩) limits _ 0 balanced

/-- A machine that comes back has the ledger of the one that was saved. -/
theorem Agrees.balanced (agrees : c.Agrees d) (inRange : d.cpu.registers.InRange)
    (balanced : c.core.Within ledger.Balanced)
    : d.core.Within ledger.Balanced := by
  refine ⟨inRange, fun source => ?_⟩
  have before : c.interrupts.counts.get source = ledger.due c.memory source :=
    balanced.around source
  have due : ledger.due c.memory source = ledger.due d.memory source := by
    cases source <;> simp [Ledger.due, agrees.memory.timer, Serial.output, agrees.memory.serial.sent]
  have interrupts : d.interrupts = c.interrupts := agrees.interrupts.symm
  exact (congrArg (·.counts.get source) interrupts).trans (before.trans due)

-----------------------------------------------------------------------------------------
-- All that a host can come by
-----------------------------------------------------------------------------------------

/-- The consoles of honest origin, with the ledger of the host since the last reset along their own
time line. A save changes nothing, and a load brings back the ledger of the console that was saved.
-/
inductive Audited (image : Bytes) : Ledger → Console → Prop
  | built {cartridge : Cartridge} {settings : Settings} {wishes : Settings.Wishes} {c : Console}
    (inserted : Cartridge.ofImage image = .ok cartridge)
    (built : ofCartridge cartridge settings wishes = .ok c)
    : Audited image {} c
  | played {ledger : Ledger} {c : Console} (turn : Turn) (own : ∀ saved, turn ≠ .load saved)
    (before : Audited image ledger c)
    : Audited image (ledger.enter c turn) (c.play turn).2
  | ran {ledger : Ledger} {c : Console} (limits : Limits) (before : Audited image ledger c)
    : Audited image ledger (c.run limits).2
  | loaded {ledger other : Ledger} {c d : Console} {created : String} {bundle : Bundle}
    (saving : Audited image ledger c) (loading : Audited image other d)
    (saved : c.save created = .ok bundle)
    : Audited image ledger ((load (some bundle)).perform d).2

namespace Audited

variable {image : Bytes}

/-- They are the consoles of honest origin, and all of these. -/
theorem genuine_iff : (∃ ledger, Audited image ledger c) ↔ Genuine image c := by
  constructor
  · rintro ⟨ledger, audited⟩
    induction audited with
    | built inserted built => exact .built inserted built
    | played turn own _ genuine => exact .played turn own genuine
    | ran limits _ genuine => exact .ran limits genuine
    | loaded _ _ saved saving loading => exact .loaded saving loading saved
  · intro genuine
    induction genuine with
    | built inserted built => exact ⟨_, .built inserted built⟩
    | played turn own _ audited =>
        obtain ⟨ledger, audited⟩ := audited
        exact ⟨_, .played turn own audited⟩
    | ran limits _ audited =>
        obtain ⟨ledger, audited⟩ := audited
        exact ⟨ledger, .ran limits audited⟩
    | loaded _ _ saved saving loading =>
        obtain ⟨ledger, saving⟩ := saving
        obtain ⟨other, loading⟩ := loading
        exact ⟨ledger, .loaded saving loading saved⟩

theorem within (audited : Audited image ledger c) : c.core.Within ledger.Balanced := by
  induction audited with
  | built inserted built =>
      obtain ⟨new, core, _⟩ := ofCartridge_core built
      rw [core]
      exact ⟨Cpu.Registers.powerOn_inRange, fun source => by cases source <;> rfl⟩
  | played turn own _ balanced => exact play_balanced balanced own
  | ran limits _ balanced => exact run_balanced balanced limits
  | loaded saving loading saved balanced _ =>
      obtain ⟨cartridge, inserted, steady⟩ := (genuine_iff.mp ⟨_, saving⟩).steady
      obtain ⟨cartridge', inserted', steady'⟩ := (genuine_iff.mp ⟨_, loading⟩).steady
      obtain rfl : cartridge = cartridge' := Except.ok.inj (inserted.symm.trans inserted')
      obtain ⟨d', loaded, agrees⟩ := steady.load_agrees steady' saved
      have inRange := (steady.load steady' saved).inRange
      rw [loaded] at inRange ⊢
      exact agrees.balanced inRange ⟨balanced.inRange, balanced.around⟩

/-- On every console of honest origin, the controller has counted one request for every overflow of
the timer, every byte sent, every press of a key that was up and every request of the host, and no
others.
-/
theorem counts_due (audited : Audited image ledger c) (source : Source)
    : c.interrupts.counts.get source = ledger.due c.memory source :=
  audited.within.around source

/-- A console is saved after a key has been pressed twice, a frame has been announced by the host and
a byte has been sent, and comes back on one for which the host has asked otherwise.
-/
theorem counts_due_reloaded
    : ∃ (ledger : Ledger) (d : Console), Audited blankImage ledger d
        ∧ (∀ source, d.interrupts.counts.get source = ledger.due d.memory source)
        ∧ d.interrupts.counts.joypad = 1 ∧ d.interrupts.counts.vblank = 1 := by
  obtain ⟨cartridge, wishes, new, inserted, built, _⟩ := built_blank
  have begun : Audited blankImage {} new := .built inserted built
  have idle : new.memory.peripherals.joypad = {} := by
    obtain ⟨n, core, _⟩ := ofCartridge_core built
    rw [memory, core]
    rfl
  have up : ({} : Ledger).enter new (.press .a) = { presses := 1 } := by
    rw [Ledger.enter, idle]
    rfl
  have held : (new.press .a).memory.peripherals.joypad.isHeld .a = true :=
    (Joypad.isHeld_press _ new.interrupts .a .a).trans rfl
  have down : ({ presses := 1 } : Ledger).enter (new.press .a) (.press .a) = { presses := 1 } := by
    rw [Ledger.enter, if_pos held]
  have once : Audited blankImage { presses := 1 } (new.press .a) :=
    up ▸ begun.played (.press .a) (by simp)
  have twice : Audited blankImage { presses := 1 } ((new.press .a).press .a) :=
    down ▸ once.played (.press .a) (by simp)
  have saving := (twice.played (.interrupt .vblank) (by simp)).played (.write 0xFF02 0x81) (by simp)
  have loading := begun.played (.interrupt .joypad) (by simp)
  obtain ⟨bytes, packs⟩ := (genuine_iff.mp ⟨_, saving⟩).intact.packs
  have reloaded := saving.loaded loading (save_ok packs "")
  exact ⟨_, _, reloaded, reloaded.counts_due, reloaded.counts_due .joypad,
    reloaded.counts_due .vblank⟩

end Audited

end Console

end Handheld
