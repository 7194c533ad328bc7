import Handheld.Proofs.Console.Stepping
import Handheld.Proofs.Console.WellFormed
import Handheld.Proofs.Cpu.Pacing
import Handheld.Proofs.Cpu.Recording
import Handheld.Proofs.Memory.Shown

/-! A program that keeps to plain memory.
As long as it reads nothing but program memory, work memory and high memory, writes nothing but the
latter two, and no source is enabled, it cannot tell a console from a processor over a plain memory.
-/

namespace Handheld

open Cpu (FlatRam Access Monitored)

-----------------------------------------------------------------------------------------
-- Accesses side by side
-----------------------------------------------------------------------------------------

theorem Interrupts.pending_off {interrupts : Interrupts} (off : interrupts.enable = 0)
    : interrupts.pending = 0 := by
  rw [pending, off]
  exact BitVec.zero_and

namespace Cpu

variable {μ : Type}

/-- An access to what a program may read or write. -/
def Access.Confined : Access → Prop
  | .read address => Memory.Among Memory.readable (Address.ofInt address)
  | .write address _ => Memory.Among Memory.writable (Address.ofInt address)

instance : (access : Access) → Decidable access.Confined
  | .read address =>
    inferInstanceAs (Decidable (Memory.Among Memory.readable (Address.ofInt address)))
  | .write address _ =>
    inferInstanceAs (Decidable (Memory.Among Memory.writable (Address.ofInt address)))

/-- Some access has not been confined. -/
def Monitored.Strayed (around : Interrupts × Monitored μ) : Prop :=
  ∃ access ∈ around.2.accesses, ¬access.Confined

/-- No source is enabled on either side, and the plain memory holds what can be read. -/
structure Abreast (s : Interrupts × Monitored FlatRam) (t : Interrupts × Memory) : Prop where
  master : s.1.master = t.1.master
  left : s.1.enable = 0
  right : t.1.enable = 0
  shows : t.2.Shows s.2.memory

theorem Core.interrupted_off {core : Core μ} (off : core.interrupts.enable = 0)
    : core.interrupted = false := by
  rw [interrupted, Interrupts.hasPending, Interrupts.pending_off off]
  exact Bool.and_false _

/-- What happens on the side of the console to its devices and requests goes unnoticed. -/
theorem Abreast.unnoticed {s : Interrupts × Monitored FlatRam} {t u : Interrupts × Memory}
    (abreast : Abreast s t) (master : u.1.master = t.1.master) (enable : u.1.enable = t.1.enable)
    (cartridge : u.2.cartridge = t.2.cartridge) (same : u.2.SameStorage t.2)
    : Abreast s u where
  master := abreast.master.trans master.symm
  left := abreast.left
  right := enable.trans abreast.right
  shows := abreast.shows.of_same cartridge same

/-- Confined accesses do not tell a plain memory from that of a console. -/
theorem FlatRam.bus_abreast
    : FlatRam.bus.monitored.MirrorsUntil Monitored.Strayed Abreast Memory.bus where
  traps := FlatRam.bus.monitored_traps fun access => ¬access.Confined
  master abreast := abreast.master
  pending abreast :=
    (Interrupts.pending_off abreast.left).trans (Interrupts.pending_off abreast.right).symm
  setMaster abreast _ := { abreast with master := rfl }
  read := by
    rintro ⟨i, ram⟩ ⟨j, m⟩ abreast address
    by_cases confined : (Access.read address).Confined
    · have found := abreast.shows address confined j
      have counted : Abreast (i, ram) (Memory.bus.read address j m).2 :=
        abreast.unnoticed rfl rfl rfl ⟨rfl, rfl, rfl, rfl, rfl, rfl⟩
      exact .inr ⟨congrArg Byte.value found.symm, { counted with }⟩
    · exact .inl ⟨_, List.mem_cons_self, confined⟩
  write := by
    rintro ⟨i, ram⟩ ⟨j, m⟩ abreast address value
    by_cases confined : (Access.write address value).Confined
    · have calm := m.write_offDevices (Memory.offDevices_of_writable confined) value j
      have stored := abreast.shows.write confined value j
      refine .inr ⟨?_, abreast.left, ?_, stored⟩
      · exact abreast.master.trans (congrArg Interrupts.master calm).symm
      · exact (congrArg Interrupts.enable calm).trans abreast.right
    · exact .inl ⟨_, List.mem_cons_self, confined⟩

end Cpu

-----------------------------------------------------------------------------------------
-- A console beside a processor
-----------------------------------------------------------------------------------------

namespace Console

/-- What a host does to the keys and the requests. -/
inductive Input
  | interrupt (source : Source)
  | press (key : Key)
  | release (key : Key)
  | releaseAll
  deriving DecidableEq, Repr

/-- Takes an input. -/
def receive (console : Console) : Input → Console
  | .interrupt source => console.requestInterrupt source
  | .press key => console.press key
  | .release key => console.release key
  | .releaseAll => console.releaseAll

/-- The outcomes of steps, each behind some inputs, up to and including the first that fails, and the
console behind them.
-/
def pace : List (List Input) → Console → List (Except Error Nat) × Console
  | [], console => ([], console)
  | inputs :: rest, console =>
    match (inputs.foldl receive console).step with
    | (.ok cycles, console) =>
      let (outcomes, console) := pace rest console
      (.ok cycles :: outcomes, console)
    | (.error error, console) => ([.error error], console)

variable {c : Console} {f : Cpu.Core (Monitored FlatRam)}

/-- A console without a fault has its processor beside one over a plain memory, in the same state. -/
structure Beside (c : Console) (f : Cpu.Core (Monitored FlatRam)) : Prop where
  healthy : c.fault = none
  mirrored : f.Mirrored Cpu.Abreast c.core

theorem Beside.receive (beside : c.Beside f) (input : Input) : (c.receive input).Beside f := by
  have around := beside.mirrored.around
  cases input with
  | interrupt | release | releaseAll =>
      exact ⟨beside.healthy, beside.mirrored.cpu,
        around.unnoticed rfl rfl rfl ⟨rfl, rfl, rfl, rfl, rfl, rfl⟩⟩
  | press key =>
      have switches : (c.memory.peripherals.joypad.press key c.interrupts).2.master
          = c.interrupts.master
          ∧ (c.memory.peripherals.joypad.press key c.interrupts).2.enable = c.interrupts.enable := by
        rw [Joypad.press]
        split <;> exact ⟨rfl, rfl⟩
      exact ⟨beside.healthy, beside.mirrored.cpu,
        around.unnoticed switches.1 switches.2 rfl ⟨rfl, rfl, rfl, rfl, rfl, rfl⟩⟩

theorem Beside.receiveAll (beside : c.Beside f) (inputs : List Input)
    : (inputs.foldl Console.receive c).Beside f := by
  induction inputs generalizing c with
  | nil => exact beside
  | cons input rest ih => exact ih (beside.receive input)

variable {outcome : Except Cpu.Fault Nat} {after : Cpu.Core (Monitored FlatRam)}

/-- Both take the same step, unless it strays. The timer ticks on one side only. -/
theorem Beside.step (beside : c.Beside f)
    (ran : (Cpu.Core.step FlatRam.bus.monitored).run f = (outcome, after))
    (confined : ¬Monitored.Strayed after.around)
    : c.step.1 = outcome.mapError Error.undefinedOpcode
        ∧ after.Mirrored Cpu.Abreast c.step.2.core
        ∧ ∀ cycles, outcome = .ok cycles → c.step.2.Beside after := by
  have quiet : c.core.interrupted = false := Cpu.Core.interrupted_off beside.mirrored.around.right
  have worked := beside.mirrored.forgotten.ahead.step_until Cpu.FlatRam.bus_abreast
    fun source called => by rw [quiet] at called; cases called
  rw [ran] at worked
  obtain ⟨same, level⟩ := worked.resolve_left confined
  generalize stepped : c.step = behind
  obtain ⟨result, d⟩ := behind
  cases c.stepping stepped with
  | halted faulted => rw [beside.healthy] at faulted; cases faulted
  | @fails fault core healthy ran' =>
      rw [ran'] at same level
      obtain ⟨outbox, kept⟩ := keepFault_eq fault { c with core }
      obtain rfl : outcome = .error fault := same
      rw [kept]
      exact ⟨rfl, level.mirrored, nofun⟩
  | @succeeds cycles core healthy ran' =>
      rw [ran'] at same level
      obtain ⟨outbox, announcedBanks, concluded⟩ :=
        conclude_eq cycles { c with core, clock := c.clock.after cycles }
      obtain rfl : outcome = .ok cycles := same
      obtain ⟨master, enable⟩ := core.memory.timer.tick_switches cycles core.interrupts
      have ticked : after.Mirrored Cpu.Abreast
          (tickTimer cycles { c with core, clock := c.clock.after cycles }).core :=
        ⟨level.mirrored.cpu,
          level.around.unnoticed master enable rfl ⟨rfl, rfl, rfl, rfl, rfl, rfl⟩⟩
      rw [concluded]
      exact ⟨rfl, ticked, fun _ _ => ⟨healthy, ticked⟩⟩

/-- Both keep pace with each other, whatever a host does to the one between its steps. -/
theorem Beside.pace (history : List (List Input)) (beside : c.Beside f)
    (confined : ¬Monitored.Strayed (f.pace FlatRam.bus.monitored history.length).2.around)
    : (c.pace history).1
          = (f.pace FlatRam.bus.monitored history.length).1.map
              (·.mapError Error.undefinedOpcode)
        ∧ (f.pace FlatRam.bus.monitored history.length).2.Mirrored Cpu.Abreast
            (c.pace history).2.core := by
  induction history generalizing c f with
  | nil => exact ⟨rfl, beside.mirrored⟩
  | cons inputs rest ih =>
      rcases ran : (Cpu.Core.step FlatRam.bus.monitored).run f with ⟨outcome, after⟩
      have free := (FlatRam.bus.monitored_traps _).free confined
      rw [ran] at free
      obtain ⟨same, mirrored, next⟩ := (beside.receiveAll inputs).step ran free
      rcases stepped : (inputs.foldl Console.receive c).step with ⟨result, d⟩
      rw [stepped] at same mirrored next
      obtain rfl : result = outcome.mapError Error.undefinedOpcode := same
      rw [pace, stepped]
      cases outcome with
      | error fault =>
          rw [List.length_cons, Cpu.Core.pace_error ran]
          exact ⟨rfl, mirrored⟩
      | ok cycles =>
          rw [List.length_cons, Cpu.Core.pace_ok ran] at confined ⊢
          obtain ⟨later, behind⟩ := ih (next cycles rfl) confined
          exact ⟨congrArg _ later, behind⟩

-----------------------------------------------------------------------------------------
-- What a host sees of both
-----------------------------------------------------------------------------------------

/-- A console and a processor over a plain memory are in the same state, with no source enabled on
either side, and the console's bus reads what the plain memory holds.
-/
structure Parallels (c : Console) (core : Cpu.Core FlatRam) : Prop where
  registers : c.cpu.registers.settled = core.cpu.registers.settled
  halted : c.cpu.halted = core.cpu.halted
  stopped : c.cpu.stopped = core.cpu.stopped
  haltBug : c.cpu.haltBug = core.cpu.haltBug
  eiPending : c.cpu.eiPending = core.cpu.eiPending
  instructionCount : c.cpu.instructionCount = core.cpu.instructionCount
  master : c.interrupts.master = core.interrupts.master
  left : c.interrupts.enable = 0
  right : core.interrupts.enable = 0
  content
    : ∀ address : Nat, Memory.Among Memory.readable address →
        (c.read address).1 = core.memory.get address

variable {core : Cpu.Core FlatRam}

theorem content_of_shows {ram : FlatRam} (shows : c.memory.Shows ram) (address : Nat)
    (readable : Memory.Among Memory.readable address)
    : (c.read address).1 = ram.get address := by
  have here := Memory.ofInt_readable readable
  exact shows address (here.symm ▸ readable) c.interrupts

/-- The processor of the console over the plain memory, with a monitor in between. -/
def transplanted (c : Console) (core : Cpu.Core FlatRam) : Cpu.Core (Monitored FlatRam) :=
  { core.monitored with cpu := c.cpu }

theorem Parallels.beside (parallels : c.Parallels core) (healthy : c.fault = none)
    : c.Beside (c.transplanted core) where
  healthy := healthy
  mirrored :=
    ⟨rfl, parallels.master.symm, parallels.right, parallels.left, .of_read parallels.content⟩

/-- The processors are alike, on whatever bus, as far as their surroundings are related. -/
theorem Parallels.alike {ν : Type} {R : Interrupts × Monitored FlatRam → Interrupts × ν → Prop}
    (parallels : c.Parallels core) (formed : c.WellFormed) {interrupts : Interrupts} {memory : ν}
    (around : R (c.transplanted core).around (interrupts, memory))
    : Cpu.Core.Alike R (c.transplanted core).forgotten
        (Cpu.Core.forgotten { cpu := core.cpu, interrupts, memory }) where
  registers := Cpu.Registers.same_iff.mpr ⟨formed.registers, parallels.registers⟩
  halted := parallels.halted
  stopped := parallels.stopped
  haltBug := parallels.haltBug
  eiPending := parallels.eiPending
  instructionCount := parallels.instructionCount
  lastInstruction := rfl
  lastInterrupt := rfl
  around := around

/-- The other way round. -/
theorem Parallels.of_alike (mirrored : f.Mirrored Cpu.Abreast c.core)
    (alike : Cpu.Core.Alike Monitored.Like f.forgotten core.forgotten)
    : c.Parallels core where
  registers := by
    have settled := (Cpu.Registers.same_iff.mp alike.registers).2
    exact (congrArg (fun cpu : Cpu => cpu.registers.settled) mirrored.cpu.symm).trans settled
  halted := (congrArg Cpu.halted mirrored.cpu.symm).trans alike.halted
  stopped := (congrArg Cpu.stopped mirrored.cpu.symm).trans alike.stopped
  haltBug := (congrArg Cpu.haltBug mirrored.cpu.symm).trans alike.haltBug
  eiPending := (congrArg Cpu.eiPending mirrored.cpu.symm).trans alike.eiPending
  instructionCount :=
    (congrArg Cpu.instructionCount mirrored.cpu.symm).trans alike.instructionCount
  master := mirrored.around.master.symm.trans (congrArg Interrupts.master alike.around.1)
  left := mirrored.around.right
  right := (congrArg Interrupts.enable alike.around.1).symm.trans mirrored.around.left
  content := by
    have same : f.memory.memory = core.memory := alike.around.2
    exact content_of_shows (same ▸ mirrored.around.shows)

/-- A program that keeps to plain memory takes the same steps on a console as over a plain memory, up
to a fault and with the same fault, and leaves the same behind, whatever the devices and a host do
meanwhile.
-/
theorem Parallels.keeps_pace (parallels : c.Parallels core) (formed : c.WellFormed)
    (healthy : c.fault = none) (history : List (List Input))
    (confined
      : ∀ access ∈ (core.monitored.pace FlatRam.bus.monitored history.length).2.memory.accesses,
          access.Confined)
    : let behind := core.pace FlatRam.bus history.length
      (c.pace history).1 = behind.1.map (·.mapError Error.undefinedOpcode)
        ∧ (c.pace history).2.Parallels behind.2
        ∧ (∀ offset : Fin 0x2000,
            (c.pace history).2.memory.wram.get offset
              = behind.2.memory.get (0xC000 + offset : Nat))
        ∧ ∀ offset : Fin 0x7F,
            (c.pace history).2.memory.hram.get offset
              = behind.2.memory.get (0xFF80 + offset : Nat) := by
  intro behind
  -- The processor of the console is put over the plain memory. It makes the accesses of the other
  -- one, so it stays beside the console, and it has the outcomes of the other one.
  let f := c.transplanted core
  have keeps : FlatRam.bus.monitored.Keeps fun _ => True :=
    ⟨fun _ _ => trivial, fun _ _ => trivial, fun _ _ => trivial, fun _ _ _ => trivial⟩
  have beginning : Cpu.Core.Alike (fun s t => s = t ∧ True) f.forgotten core.monitored.forgotten :=
    parallels.alike formed ⟨rfl, trivial⟩
  have plain : Cpu.Core.Alike Monitored.Like f.forgotten core.forgotten :=
    parallels.alike formed ⟨rfl, rfl⟩
  obtain ⟨-, accesses⟩ := beginning.pace keeps.congruent history.length
  obtain ⟨outcomes, alike⟩ := plain.pace FlatRam.bus.monitored_congruent history.length
  have straight : ¬Monitored.Strayed (f.pace FlatRam.bus.monitored history.length).2.around := by
    rintro ⟨access, seen, outside⟩
    have same : (f.pace FlatRam.bus.monitored history.length).2.around
        = (core.monitored.pace FlatRam.bus.monitored history.length).2.around := accesses.around.1
    rw [same] at seen
    exact outside (confined access seen)
  obtain ⟨same, mirrored⟩ := (parallels.beside healthy).pace history straight
  have shows : (c.pace history).2.memory.Shows behind.2.memory := by
    have content : (f.pace FlatRam.bus.monitored history.length).2.memory.memory
        = behind.2.memory := alike.around.2
    exact content ▸ mirrored.around.shows
  exact ⟨same.trans (congrArg _ outcomes), .of_alike mirrored alike, shows.wram, shows.hram⟩

theorem calling_size : (Array.replicate 0x8000 (0xC7 : Byte)).size = Cartridge.blank.header.romSize :=
  Array.size_replicate

/-- A cartridge of nothing but calls to address zero. -/
def callingCartridge : Cartridge :=
  { Cartridge.blank with
    rom := Array.replicate 0x8000 0xC7
    rom_size := calling_size }

/-- A console with such a cartridge and such calls in work memory and high memory. The master switch
is about to go on.
-/
def calling : Console :=
  { blank with
    core :=
      { blank.core with
        cpu.eiPending := true
        memory :=
          { blank.memory with
            cartridge := callingCartridge
            wram := Vector.replicate 0x2000 0xC7
            hram := Vector.replicate 0x7F 0xC7 } } }

/-- The same calls over a plain memory. -/
def flatCalling : Cpu.Core FlatRam where
  cpu := calling.cpu
  interrupts := {}
  memory := Vector.replicate 65536 0xC7

theorem calling_shows : calling.memory.Shows flatCalling.memory := by
  intro address readable interrupts
  have call : flatCalling.memory.get address = 0xC7 := Vector.getElem_replicate _
  rw [call, Memory.peek]
  rcases Memory.place_readable readable with ⟨offset, rom⟩ | stored
  · have byte (bank other : Int) : calling.cartridge.romByte bank other = 0xC7 := by
      have size : calling.cartridge.rom.size = 0x8000 := Array.size_replicate
      have inside : ((bank * Cartridge.romBankSize + other) % calling.cartridge.rom.size).toNat
          < calling.cartridge.rom.size := by
        rw [size]
        omega
      rw [Cartridge.romByte, Cartridge.byteAt, Array.getElem?_eq_getElem inside]
      exact Array.getElem_replicate _
    have banked : calling.cartridge.readRom offset = 0xC7 := by
      rw [Cartridge.readRom, byte, byte, ite_self]
    rw [rom]
    exact banked
  · have bounds := Memory.among_readable_iff.mp readable
    rw [Memory.among_writable_iff] at bounds
    generalize Memory.place (Address.ofInt address) = p at stored
    cases p with
    | wram | hram => exact Vector.getElem_replicate _
    | vram offset | oam offset | audio offset | video offset =>
        have own := Option.some.inj stored
        omega
    | _ => cases stored

/-- Keys and requests that come in before its three steps. -/
def callingInputs : List (List Input) :=
  [[.press .a], [.interrupt .timer, .releaseAll], []]

/-- It calls three times on the console as over the plain memory, with the keys and requests going
unnoticed.
-/
theorem Parallels.keeps_pace_calling
    : calling.Parallels flatCalling ∧ calling.WellFormed ∧ calling.fault = none
        ∧ (∀ access ∈
            (flatCalling.monitored.pace FlatRam.bus.monitored
              callingInputs.length).2.memory.accesses, access.Confined)
        ∧ (calling.pace callingInputs).1.map Except.toOption = [some 16, some 16, some 16]
        ∧ (calling.pace callingInputs).2.Parallels
            (flatCalling.pace FlatRam.bus callingInputs.length).2 := by
  have parallels : calling.Parallels flatCalling :=
    { registers := rfl, halted := rfl, stopped := rfl, haltBug := rfl, eiPending := rfl
      instructionCount := rfl, master := rfl, left := rfl, right := rfl
      content := content_of_shows calling_shows }
  have formed : calling.WellFormed := by
    refine wellFormed_iff.mpr ⟨?_, ⟨by decide, by decide⟩, rfl, rfl, rfl, rfl⟩
    constructor <;> constructor <;> decide
  have confined : ∀ access ∈
      (flatCalling.monitored.pace FlatRam.bus.monitored callingInputs.length).2.memory.accesses,
      access.Confined := by decide +kernel
  have outcomes
      : (flatCalling.pace FlatRam.bus callingInputs.length).1.map Except.toOption
        = [some 16, some 16, some 16] := by decide +kernel
  obtain ⟨same, behind, -⟩ := parallels.keeps_pace formed rfl callingInputs confined
  refine ⟨parallels, formed, rfl, confined, ?_, behind⟩
  rw [same, ← outcomes, List.map_map]
  refine List.map_congr_left fun outcome _ => ?_
  cases outcome <;> rfl

end Console

end Handheld
