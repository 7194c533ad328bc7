import Handheld.Proofs.Console.Agreement
import Handheld.Proofs.Console.Dispatch
import Handheld.Proofs.Cpu.Neighbours
import Handheld.Proofs.Cpu.Recording

/-! Requests are never lost.
Once a request is up, it stays up until its source is served or the request register is written.
Nothing else that a program, a device or a host does takes it back. Only the serial link can raise a
request that is gone behind the same step, when the call that serves it puts a byte on the line.
-/

namespace Handheld

-----------------------------------------------------------------------------------------
-- Changes that lose no request
-----------------------------------------------------------------------------------------

namespace Interrupts

/-- A source has asked for service and has not been served yet. -/
def IsRequested (source : Source) (interrupts : Interrupts) : Prop :=
  interrupts.requests.getLsbD source.priority = true

/-- No request of a source is lost on the way, whether it was up before or was raised meanwhile. -/
structure Sustains (source : Source) (before after : Interrupts) : Prop where
  kept : before.IsRequested source → after.IsRequested source
  raised : before.counts.get source ≠ after.counts.get source → after.IsRequested source

variable {source : Source} {before between after : Interrupts}

theorem Sustains.refl (source : Source) (interrupts : Interrupts)
    : Sustains source interrupts interrupts :=
  ⟨id, fun raised => absurd rfl raised⟩

theorem Sustains.trans (first : Sustains source before between)
    (second : Sustains source between after)
    : Sustains source before after := by
  refine ⟨second.kept ∘ first.kept, fun raised => ?_⟩
  by_cases earlier : before.counts.get source = between.counts.get source
  · exact second.raised (earlier ▸ raised)
  · exact second.kept (first.raised earlier)

/-- What touches neither requests nor counts loses nothing. -/
theorem Sustains.of_same (requests : after.requests = before.requests)
    (counts : after.counts = before.counts)
    : Sustains source before after := by
  constructor
  · intro up
    rw [IsRequested, requests]
    exact up
  · intro raised
    rw [counts] at raised
    exact absurd rfl raised

theorem request_isRequested (source : Source) (interrupts : Interrupts)
    : (interrupts.request source).IsRequested source := by
  have own : source.mask.getLsbD source.priority = true := by cases source <;> rfl
  rw [IsRequested, request, BitVec.getLsbD_or, own, Bool.or_true]

theorem Sustains.request (source other : Source) (interrupts : Interrupts)
    : Sustains source interrupts (interrupts.request other) := by
  constructor
  · intro up
    rw [IsRequested] at up ⊢
    rw [Interrupts.request, BitVec.getLsbD_or, up, Bool.true_or]
  · intro raised
    by_cases same : source = other
    · rw [same]
      exact request_isRequested other interrupts
    · cases source <;> cases other <;> first | exact absurd rfl same | exact absurd rfl raised

theorem Sustains.requests (source other : Source) (count : Nat) (interrupts : Interrupts)
    : Sustains source interrupts ((Interrupts.request other)^[count] interrupts) := by
  induction count generalizing interrupts with
  | zero => exact .refl source interrupts
  | succ count ih => exact (Sustains.request source other interrupts).trans (ih _)

/-- To acknowledge one source loses no request of another. -/
theorem Sustains.acknowledge {other : Source} (apart : other ≠ source) (interrupts : Interrupts)
    : Sustains source interrupts (interrupts.acknowledge other) := by
  refine ⟨fun up => ?_, fun raised => absurd rfl raised⟩
  have ranks : source.priority ≠ other.priority := by
    cases source <;> cases other <;> first | exact absurd rfl apart | decide
  rw [IsRequested] at up ⊢
  rw [requests_acknowledge, up]
  simpa using ranks

theorem get_request {other : Source} (apart : source ≠ other) (interrupts : Interrupts)
    : (interrupts.request other).counts.get source = interrupts.counts.get source := by
  cases source <;> cases other <;> first | exact absurd rfl apart | rfl

/-- Requests of one source change nothing about another. -/
theorem requests_apart {other : Source} (apart : source ≠ other) (count : Nat)
    (interrupts : Interrupts)
    : ((Interrupts.request other)^[count] interrupts).counts.get source = interrupts.counts.get source
        ∧ (((Interrupts.request other)^[count] interrupts).IsRequested source
          ↔ interrupts.IsRequested source) := by
  induction count generalizing interrupts with
  | zero => exact ⟨rfl, Iff.rfl⟩
  | succ count ih =>
      obtain ⟨counts, requested⟩ := ih (interrupts.request other)
      have foreign : other.mask.getLsbD source.priority = false := by
        cases source <;> cases other <;> first | exact absurd rfl apart | rfl
      refine ⟨counts.trans (get_request apart interrupts), requested.trans ?_⟩
      rw [IsRequested, IsRequested, request, BitVec.getLsbD_or, foreign, Bool.or_false]

end Interrupts

open Interrupts (Sustains)

theorem Timer.tick_sustains (source : Source) (cycles : Int) (timer : Timer)
    (interrupts : Interrupts)
    : Sustains source interrupts (timer.tick cycles interrupts).2 := by
  obtain ⟨count, requested, _⟩ := tick_raised cycles timer interrupts
  rw [requested]
  exact .requests source .timer count interrupts

theorem Joypad.press_sustains (source : Source) (key : Key) (joypad : Joypad)
    (interrupts : Interrupts)
    : Sustains source interrupts (joypad.press key interrupts).2 := by
  rw [press]
  split
  · exact .refl source interrupts
  · exact .request source .joypad interrupts

theorem Serial.set_sustains (source : Source) (register : Register) (value : Byte) (serial : Serial)
    (interrupts : Interrupts)
    : Sustains source interrupts (Serial.set register value serial interrupts).2 := by
  cases register with
  | data => exact .refl source interrupts
  | control =>
      rw [Serial.set]
      split
      · exact .request source .serial interrupts
      · exact .refl source interrupts

/-- A write anywhere else than to the request register loses no request. -/
theorem Memory.write_sustains (source : Source) (m : Memory) {address : Int}
    (elsewhere : address % 0x10000 ≠ 0xFF0F) (value : Int) (interrupts : Interrupts)
    : Sustains source interrupts (m.write address value interrupts).1 := by
  have other : place (Address.ofInt address) ≠ .interruptRequests := by
    intro here
    have requests : (address % 0x10000).toNat = 0xFF0F := place_requests here
    omega
  rw [write]
  cases denoted : place (Address.ofInt address) with
  | interruptRequests => exact absurd denoted other
  | serial register => exact Serial.set_sustains source register _ _ interrupts
  | _ => exact .of_same rfl rfl

-----------------------------------------------------------------------------------------
-- What a step does to requests
-----------------------------------------------------------------------------------------

/-- A write to the request register, which may clear any request. -/
def Cpu.Access.Clears : Cpu.Access → Prop
  | .read _ => False
  | .write address _ => address % 0x10000 = 0xFF0F

/-- A write to the control register of the serial link, which may begin a transfer. -/
def Cpu.Access.Transfers : Cpu.Access → Prop
  | .read _ => False
  | .write address _ => address % 0x10000 = 0xFF02

namespace Memory

variable {source : Source} {start : Interrupts} {around around' : Interrupts × Memory}
  {notes notes' : List Cpu.Access}

/-- Either nothing has been lost since, or an access so far may have cleared something. -/
def Watched (source : Source) (start : Interrupts) (around : Interrupts × Memory)
    (notes : List Cpu.Access)
    : Prop :=
  Sustains source start around.1 ∨ ∃ access ∈ notes, access.Clears

/-- What loses nothing by itself, and takes no note back, keeps the watch. -/
theorem Watched.next (watched : Watched source start around notes)
    (sustains : Sustains source around.1 around'.1) (more : notes ⊆ notes')
    : Watched source start around' notes' := by
  rcases watched with sustained | ⟨access, noted, clears⟩
  · exact .inl (sustained.trans sustains)
  · exact .inr ⟨access, more noted, clears⟩

theorem bus_watched (source : Source) (start : Interrupts)
    : bus.Records (Watched source start) where
  setMaster watched _ := watched.next (.of_same rfl rfl) (List.Subset.refl _)
  read watched _ := watched.next (.refl _ _) (List.subset_cons_self _ _)
  write := by
    intro interrupts m notes watched address value
    by_cases elsewhere : address % 0x10000 = 0xFF0F
    · exact .inr ⟨_, List.mem_cons_self, elsewhere⟩
    · exact watched.next (write_sustains source _ elsewhere value interrupts)
        (List.subset_cons_self _ _)

end Memory

namespace Console

variable {c : Console} {source : Source}

/-- A turn that can take back a request: a step that serves its source or writes the request
register, a write to it by the host, a reset, or a load that changes anything.
-/
def Withdraws (source : Source) (c : Console) : Turn → Prop
  | .step =>
    (∃ cycles, c.step.1 = .ok cycles ∧ c.step.2.cpu.activity = .service source)
      ∨ ∃ access ∈ c.accesses, access.Clears
  | .write address _ => address % 0x10000 = 0xFF0F
  | .reset => True
  | .load saved => ((load saved).perform c).2 ≠ c
  | _ => False

/-- No turn of some, taken one after the other, withdraws a request. -/
def Undisturbed (source : Source) (c : Console) : List Turn → Prop
  | [] => True
  | turn :: rest => ¬c.Withdraws source turn ∧ (c.play turn).2.Undisturbed source rest

/-- The core behind a step: untouched, or as the processor has left it, possibly with the timer run
on.
-/
inductive Ends (c : Console) : Cpu.Core Memory → Prop
  | untouched : Ends c c.core
  | worked (healthy : c.fault = none) : Ends c c.worked
  | ticked (healthy : c.fault = none) (cycles : Nat)
    : Ends c (tickTimer cycles { c with core := c.worked }).core

theorem step_ends (c : Console) : c.Ends c.step.2.core := by
  generalize stepped : c.step = behind
  obtain ⟨outcome, d⟩ := behind
  cases c.stepping stepped with
  | halted _ => exact .untouched
  | @fails fault core healthy ran =>
      obtain ⟨outbox, faulted⟩ := keepFault_eq fault { c with core }
      have worked : c.worked = core := by rw [Console.worked, ran]
      rw [faulted, ← worked]
      exact .worked healthy
  | @succeeds cycles core healthy ran =>
      obtain ⟨outbox, announcedBanks, concluded⟩ :=
        conclude_eq cycles { c with core, clock := c.clock.after cycles }
      have worked : c.worked = core := by rw [Console.worked, ran]
      rw [concluded, ← worked]
      exact .ticked healthy cycles

/-- The processor itself loses no request of a source that it does not serve. -/
theorem worked_sustains (healthy : c.fault = none) (unserved : ¬c.Calls source)
    (uncleared : ¬∃ access ∈ c.accesses, access.Clears)
    : Sustains source c.interrupts c.worked.interrupts := by
  have behind := (Memory.bus_watched source c.interrupts).step c.core
    (by
      intro other called first interrupts m notes watched
      have apart : other ≠ source := by
        rintro rfl
        exact unserved ⟨healthy, (Bool.and_eq_true_iff.mp called).1, first⟩
      exact watched.next (.acknowledge apart _) (List.Subset.refl _))
    (.inl (.refl source c.interrupts))
  rcases behind with sustained | ⟨access, noted, clears⟩
  · exact sustained
  · refine absurd ⟨access, ?_, clears⟩ uncleared
    rw [accesses_healthy healthy]
    exact List.mem_reverse.mpr noted

theorem step_sustains (kept : ¬c.Withdraws source .step)
    : Sustains source c.interrupts c.step.2.interrupts := by
  obtain ⟨unserved, uncleared⟩ := not_or.mp kept
  have quiet : ¬c.Calls source := fun calls => unserved ⟨20, calls.step_fst, calls.activity⟩
  have ends := c.step_ends
  change Sustains source c.interrupts c.step.2.core.interrupts
  generalize c.step.2.core = core at ends ⊢
  cases ends with
  | untouched => exact .refl source c.interrupts
  | worked healthy => exact worked_sustains healthy quiet uncleared
  | ticked healthy cycles =>
      have worked := worked_sustains healthy quiet uncleared
      exact worked.trans (Timer.tick_sustains source cycles _ c.worked.interrupts)

theorem play_sustains {turn : Turn} (kept : ¬c.Withdraws source turn)
    : Sustains source c.interrupts (c.play turn).2.interrupts := by
  cases turn with
  | step => exact step_sustains kept
  | write address value => exact Memory.write_sustains source c.memory kept value c.interrupts
  | interrupt other => exact .request source other c.interrupts
  | press key => exact Joypad.press_sustains source key _ c.interrupts
  | reset => exact absurd trivial kept
  | load saved =>
      have same : ((load saved).perform c).2 = c := not_not.mp kept
      rw [play, same]
      exact .refl source c.interrupts
  | read | release | releaseAll | requestStop => exact .refl source c.interrupts

theorem playAll_sustains {turns : List Turn} (undisturbed : c.Undisturbed source turns)
    : Sustains source c.interrupts (playAll turns c).2.interrupts := by
  induction turns generalizing c with
  | nil => exact .refl source c.interrupts
  | cons turn rest ih =>
      obtain ⟨kept, later⟩ := undisturbed
      exact (play_sustains kept).trans (ih later)

-----------------------------------------------------------------------------------------
-- Overflows
-----------------------------------------------------------------------------------------

/-- No access counts an overflow. -/
theorem write_overflows (m : Memory) (address value : Int) (interrupts : Interrupts)
    : (m.write address value interrupts).2.timer.overflows = m.timer.overflows := by
  rw [Memory.write]
  rcases Memory.set_timer _ (Memory.place (Address.ofInt address)) (Byte.ofInt value) interrupts
    with kept | ⟨register, set⟩
  · rw [kept]
  · rw [set]
    cases register <;> rfl

theorem bus_overflows (overflows : Int)
    : Memory.bus.Records fun around _ => around.2.timer.overflows = overflows where
  setMaster counted _ := counted
  read counted _ := counted
  write counted address value := (write_overflows _ address value _).trans counted

theorem worked_overflows (c : Console)
    : c.worked.memory.timer.overflows = c.memory.timer.overflows :=
  (bus_overflows _).step c.core (fun _ _ _ _ _ _ counted => counted) rfl

/-- A step in which the timer has overflowed leaves its request up, whatever else has happened. -/
theorem step_overflows (overflowed : c.step.2.memory.timer.overflows ≠ c.memory.timer.overflows)
    : c.step.2.interrupts.IsRequested .timer := by
  have ends := c.step_ends
  change c.step.2.core.memory.timer.overflows ≠ c.memory.timer.overflows at overflowed
  change c.step.2.core.interrupts.IsRequested .timer
  generalize c.step.2.core = core at ends overflowed ⊢
  cases ends with
  | untouched => exact absurd rfl overflowed
  | worked _ => exact absurd c.worked_overflows overflowed
  | ticked _ cycles =>
      obtain ⟨count, requested, counted⟩ :=
        c.worked.memory.timer.tick_raised cycles c.worked.interrupts
      change (c.worked.memory.timer.tick cycles c.worked.interrupts).2.IsRequested .timer
      rw [requested]
      cases count with
      | zero => exact absurd ((counted.trans (Int.add_zero _)).trans c.worked_overflows) overflowed
      | succ count =>
          have first := Interrupts.request_isRequested .timer c.worked.interrupts
          exact (Sustains.requests .timer .timer count _).kept first

-----------------------------------------------------------------------------------------
-- Requests raised in a step
-----------------------------------------------------------------------------------------

/-- No write raises a request of another source than the serial link, or anywhere else than at its
control register.
-/
theorem write_counts (source : Source) (m : Memory) (address value : Int) (interrupts : Interrupts)
    : (m.write address value interrupts).1.counts.get source = interrupts.counts.get source
        ∨ source = .serial ∧ address % 0x10000 = 0xFF02 := by
  rw [Memory.write]
  cases denoted : Memory.place (Address.ofInt address) with
  | serial register =>
      cases register with
      | data => exact .inl rfl
      | control =>
          have here : (address % 0x10000).toNat = 0xFF02 := Memory.place_transfer denoted
          by_cases own : source = .serial
          · exact .inr ⟨own, by omega⟩
          · refine .inl ?_
            rw [Memory.set, Serial.set]
            dsimp only
            split
            · exact Interrupts.get_request own interrupts
            · rfl
  | _ => exact .inl rfl

theorem bus_counts (source : Source) (total : Int)
    : Memory.bus.Records fun around notes =>
        around.1.counts.get source = total
          ∨ source = .serial ∧ ∃ access ∈ notes, access.Transfers where
  setMaster counted _ := counted
  read counted _ :=
    counted.imp_right fun ⟨own, access, noted, transfers⟩ =>
      ⟨own, access, List.mem_cons_of_mem _ noted, transfers⟩
  write {interrupts m notes} counted address value := by
    rcases counted with counted | ⟨own, access, noted, transfers⟩
    · rcases write_counts source m address value interrupts with same | ⟨own, here⟩
      · exact .inl (same.trans counted)
      · exact .inr ⟨own, _, List.mem_cons_self, here⟩
    · exact .inr ⟨own, access, List.mem_cons_of_mem _ noted, transfers⟩

/-- The processor raises no other request than one of the serial link, by writing to its control
register.
-/
theorem worked_counts (healthy : c.fault = none) (source : Source)
    : c.worked.interrupts.counts.get source = c.interrupts.counts.get source
        ∨ source = .serial ∧ ∃ access ∈ c.accesses, access.Transfers := by
  have behind := (bus_counts source (c.interrupts.counts.get source)).step c.core
    (fun _ _ _ _ _ _ counted => counted) (.inl rfl)
  refine behind.imp_right fun ⟨own, access, noted, transfers⟩ => ⟨own, access, ?_, transfers⟩
  rw [accesses_healthy healthy]
  exact List.mem_reverse.mpr noted

/-- A step that writes to the control register of the serial link does not write to the request
register, which is not next to it.
-/
theorem not_clears_of_transfers (healthy : c.fault = none)
    (transfers : ∃ access ∈ c.accesses, access.Transfers)
    : ¬∃ access ∈ c.accesses, access.Clears := by
  rintro ⟨clearing, cleared, clears⟩
  obtain ⟨starting, started, starts⟩ := transfers
  rw [accesses_healthy healthy, List.mem_reverse] at cleared started
  obtain ⟨low, near⟩ := Cpu.Core.step_neighbouring Memory.bus c.core.monitored rfl
  cases clearing with
  | read _ => exact clears
  | write there _ =>
      cases starting with
      | read _ => exact starts
      | write here _ =>
          have first := near there (List.mem_filterMap.mpr ⟨_, cleared, rfl⟩)
          have second := near here (List.mem_filterMap.mpr ⟨_, started, rfl⟩)
          have requests : there % 0x10000 = 0xFF0F := clears
          have control : here % 0x10000 = 0xFF02 := starts
          omega

/-- What the processor has raised is up behind it, unless it was called by the serial link. -/
theorem worked_raised (healthy : c.fault = none)
    (raised : c.interrupts.counts.get source ≠ c.worked.interrupts.counts.get source)
    : source = .serial ∧ (c.worked.interrupts.IsRequested .serial ↔ ¬c.Calls .serial) := by
  obtain ⟨rfl, transfers⟩ := (worked_counts healthy source).resolve_left fun same => raised same.symm
  refine ⟨rfl, ?_⟩
  by_cases calls : c.Calls .serial
  · refine iff_of_false (fun up => ?_) (not_not_intro calls)
    rw [Interrupts.IsRequested, calls.worked, Interrupts.requests_acknowledge] at up
    simp at up
  · refine iff_of_true ?_ calls
    exact (worked_sustains healthy calls (not_clears_of_transfers healthy transfers)).raised raised

/-- What a step has raised is up behind it. Only the serial link may be served in a step that raises a
request of it, and then the one that is raised goes with the one that is served.
-/
theorem step_raised (raised : c.interrupts.counts.get source ≠ c.step.2.interrupts.counts.get source)
    : c.step.2.interrupts.IsRequested source ↔ ¬(source = .serial ∧ c.Calls .serial) := by
  have ends := c.step_ends
  change c.interrupts.counts.get source ≠ c.step.2.core.interrupts.counts.get source at raised
  change c.step.2.core.interrupts.IsRequested source ↔ _
  generalize c.step.2.core = core at ends raised ⊢
  cases ends with
  | untouched => exact absurd rfl raised
  | worked healthy =>
      obtain ⟨rfl, up⟩ := worked_raised healthy raised
      simpa using up
  | ticked healthy cycles =>
      obtain ⟨count, requested, _⟩ :=
        c.worked.memory.timer.tick_raised cycles c.worked.interrupts
      change c.interrupts.counts.get source
        ≠ (c.worked.memory.timer.tick cycles c.worked.interrupts).2.counts.get source at raised
      change (c.worked.memory.timer.tick cycles c.worked.interrupts).2.IsRequested source ↔ _
      rw [requested] at raised ⊢
      by_cases own : source = .timer
      · subst own
        refine iff_of_true ?_ nofun
        cases count with
        | zero => cases (worked_raised healthy raised).1
        | succ count =>
            have first := Interrupts.request_isRequested .timer c.worked.interrupts
            exact (Sustains.requests .timer .timer count _).kept first
      · obtain ⟨counts, up⟩ := Interrupts.requests_apart own count c.worked.interrupts
        rw [counts] at raised
        obtain ⟨rfl, left⟩ := worked_raised healthy raised
        rw [up, left]
        simp

/-- Whatever is done to a console, a request stays up from when it is raised, until its source is
served, the request register is written or all is reset or loaded. What a step has raised is there for
the next step, unless it is a request of the serial link and the step has served that very source. The
timer runs behind all else, and what it has raised is there in any case.
-/
theorem requests_persist (c : Console)
    : (∀ source turns, c.Undisturbed source turns →
          Sustains source c.interrupts (playAll turns c).2.interrupts)
        ∧ (∀ source, c.interrupts.counts.get source ≠ c.step.2.interrupts.counts.get source →
          (c.step.2.interrupts.IsRequested source ↔ ¬(source = .serial ∧ c.Calls .serial)))
        ∧ (c.step.2.memory.timer.overflows ≠ c.memory.timer.overflows →
          c.step.2.interrupts.IsRequested .timer) :=
  ⟨fun _ _ undisturbed => playAll_sustains undisturbed, fun _ raised => step_raised raised,
    step_overflows⟩

/-- A blank console with a request of the serial link up. It is to execute `NOP` from the enable
register, behind which the timer overflows.
-/
def overflowing : Console :=
  { blank with
    core :=
      { blank.core with
        cpu.registers.pc := 0xFFFF
        interrupts := { enable := 0, requests := 0x08 }
        memory.timer := { tima := 0xFF, tac := 5, prescaler := 12 } } }

/-- The request outlives a key, a step and a write, and so does the one that the key has raised. -/
theorem requests_persist_overflowing
    : let turns : List Turn := [.press .start, .step, .write 0xC000 0]
      overflowing.Undisturbed .serial turns ∧ overflowing.Undisturbed .joypad turns
        ∧ (playAll turns overflowing).2.interrupts.IsRequested .serial
        ∧ (playAll turns overflowing).2.interrupts.IsRequested .joypad
        ∧ overflowing.interrupts.counts.get .timer ≠ overflowing.step.2.interrupts.counts.get .timer
        ∧ overflowing.step.2.interrupts.IsRequested .timer := by
  intro turns
  have undisturbed (source : Source) : overflowing.Undisturbed source turns := by
    refine ⟨id, ?_, nofun, trivial⟩
    have active : (overflowing.play (.press .start)).2.step.2.cpu.activity = .execution .nop := by
      decide +kernel
    have accesses : (overflowing.play (.press .start)).2.accesses = [.read 0xFFFF] := by
      decide +kernel
    rintro (⟨cycles, _, served⟩ | ⟨access, noted, clears⟩)
    · rw [active] at served
      cases served
    · rw [accesses] at noted
      obtain rfl := List.mem_singleton.mp noted
      exact clears
  obtain ⟨persist, visible, _⟩ := overflowing.requests_persist
  have up : overflowing.interrupts.IsRequested .serial := rfl
  have raised : overflowing.interrupts.counts.get .joypad
      ≠ (playAll turns overflowing).2.interrupts.counts.get .joypad := by
    decide +kernel
  have overflowed : overflowing.interrupts.counts.get .timer
      ≠ overflowing.step.2.interrupts.counts.get .timer := by
    decide +kernel
  exact ⟨undisturbed _, undisturbed _, (persist .serial turns (undisturbed _)).kept up,
    (persist .joypad turns (undisturbed _)).raised raised, overflowed,
    (visible .timer overflowed).mpr nofun⟩

/-- A blank console that is called by the serial link, with the stack on the registers of the link and
an address to return to that begins a transfer.
-/
def ringing : Console :=
  { blank with
    core :=
      { blank.core with
        cpu.registers := { pc := 0xC100, sp := 0xFF03, flags := {} }
        interrupts := { enable := 0x08, requests := 0x08, master := true } } }

/-- The request that the call raises goes with the one that it serves, and no write to the request
register has taken it back.
-/
theorem ringing_unheard
    : ringing.interrupts.counts.get .serial = 0 ∧ ringing.step.2.interrupts.counts.get .serial = 1
        ∧ ringing.accesses = [.write 0xFF02 0xC1, .write 0xFF01 0x00]
        ∧ ¬ringing.step.2.interrupts.IsRequested .serial := by
  refine ⟨rfl, by decide +kernel, by decide +kernel, ?_⟩
  rw [Interrupts.IsRequested]
  decide +kernel

end Console

end Handheld
