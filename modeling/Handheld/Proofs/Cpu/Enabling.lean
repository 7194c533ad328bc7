import Handheld.Proofs.Cpu.Serving

/-! When the master switch moves.
`EI` arms the processor for one instruction, behind which the switch goes on. Nothing but the
processor moves the switch, so every move can be traced to the step that made it.
-/

namespace Handheld.Cpu

variable {μ : Type} {bus : Bus μ} {core fetched : Core μ}

/-- No access moves the master switch. -/
structure Bus.SparesMaster (bus : Bus μ) : Prop where
  read (address : Int) (interrupts : Interrupts) (memory : μ)
    : (bus.read address interrupts memory).2.1.master = interrupts.master
  write (address value : Int) (interrupts : Interrupts) (memory : μ)
    : (bus.write address value interrupts memory).1.master = interrupts.master

namespace Core

/-- The master switch, and whether it is to go on behind the next instruction. -/
def switches (core : Core μ) : Bool × Bool :=
  (core.interrupts.master, core.cpu.eiPending)

/-- From a reset, a processor has come here by steps, between which a host may have changed the
interrupt controller but for the master switch.
-/
inductive Reached (bus : Bus μ) : Core μ → Prop
  | reset {core : Core μ} (fresh : core.cpu = powerOn) : Reached bus core
  | step {core : Core μ} (before : Reached bus core) : Reached bus ((Core.step bus).run core).2
  | host {core : Core μ} (before : Reached bus core) {interrupts : Interrupts}
    (same : interrupts.master = core.interrupts.master)
    : Reached bus { core with interrupts }

end Core

-----------------------------------------------------------------------------------------
-- What one step does to the switches
-----------------------------------------------------------------------------------------

/-- The switches behind an instruction, by the switches before it. -/
def Instruction.switched : Instruction → Bool × Bool → Bool × Bool
  | .di, _ => (false, false)
  | .reti, _ => (true, false)
  | .ei, (master, armed) => (master || armed, !armed)
  | _, (master, armed) => (master || armed, false)

namespace Instruction

variable {instruction : Instruction} {master armed : Bool}

theorem switched_on (off : master = false)
    (on : (instruction.switched (master, armed)).1 = true)
    : instruction = .reti ∨ armed = true ∧ instruction ≠ .di := by
  subst off
  cases instruction <;> simp_all [switched]

theorem switched_off (on : master = true)
    (off : (instruction.switched (master, armed)).1 = false)
    : instruction = .di := by
  subst on
  cases instruction <;> simp_all [switched]

theorem switched_armed (on : (instruction.switched (master, armed)).2 = true)
    : instruction = .ei ∧ armed = false := by
  cases instruction <;> simp_all [switched]

/-- Behind the instruction after `EI` the master switch is on, unless that was `DI`. -/
theorem switched_delayed (instruction : Instruction)
    : instruction.switched (false, true) = (decide (instruction ≠ .di), false) := by
  cases instruction <;> rfl

end Instruction

/-- Instructions that switch nothing leave the master switch alone. -/
theorem Bus.SparesMaster.frame (spares : bus.SparesMaster)
    : Frame bus (fun core => core.interrupts.master) where
  registers _ _ := rfl
  read address core := spares.read address core.interrupts core.memory
  write address value core := spares.write address value core.interrupts core.memory

namespace Core

theorem latch_eiPending (fails : Bool) (cpu : Cpu) (instruction : Instruction)
    : (instruction.latch fails cpu).eiPending
      = match instruction with
        | .di => false
        | .ei => true
        | _ => cpu.eiPending := by
  cases instruction with
  | halt => cases fails <;> rfl
  | _ => rfl

theorem run_execute_eiPending (bus : Bus μ) (instruction : Instruction) (immediate : Int)
    (core : Core μ)
    : ((execute bus instruction immediate).run core).2.cpu.eiPending
      = match instruction with
        | .di => false
        | .ei => true
        | _ => core.cpu.eiPending :=
  (congrArg Cpu.eiPending (run_execute_aside bus instruction immediate core)).trans
    (latch_eiPending _ _ _)

/-- A switch that was to go on goes on unless the instruction took that back. -/
theorem completed_switches (core : Core μ) (armed : Bool)
    : (core.completed armed).switches
      = (core.interrupts.master || armed && core.cpu.eiPending,
          core.cpu.eiPending && !armed) := by
  cases pending : core.cpu.eiPending with
  | false =>
      rw [completed_plain (by rw [pending, Bool.and_false])]
      simp [switches, pending]
  | true =>
      cases armed with
      | false =>
          rw [completed_plain rfl]
          simp [switches, pending]
      | true =>
          rw [completed_enabling pending]
          simp [switches, Interrupts.setMaster]

theorem completed_waits (core : Core μ) (armed : Bool)
    : (core.completed armed).cpu.halted = core.cpu.halted
        ∧ (core.completed armed).cpu.stopped = core.cpu.stopped := by
  rw [completed]
  split <;> exact ⟨rfl, rfl⟩

section

variable (spares : bus.SparesMaster)
include spares

theorem run_execute_master (instruction : Instruction) (immediate : Int) (core : Core μ)
    : ((execute bus instruction immediate).run core).2.interrupts.master
      = match instruction with
        | .di => false
        | .reti => true
        | _ => core.interrupts.master := by
  cases plain : instruction.switches with
  | false =>
      have kept := spares.frame.execute plain immediate core
      cases instruction with
      | stop | halt | di | ei | reti => cases plain
      | _ => exact kept
  | true =>
      cases instruction with
      | stop => exact spares.write 0xFF04 0 core.interrupts core.memory
      | halt =>
          rw [run_halt]
          split <;> rfl
      | di | ei | reti => rfl
      | _ => cases plain

theorem fetch_leaves_master : Leaves (fun core => core.interrupts.master) (fetch bus) :=
  fetch_leaves (fun _ _ => rfl) spares.frame.read

/-- Behind an instruction the switches are as the instruction has it. -/
theorem executed_switches {instruction : Instruction} {immediate : Int}
    (found : (fetch bus).run core.forgotten = (.ok (instruction, immediate), fetched))
    : (((execute bus instruction immediate).run fetched).2.completed
          core.cpu.eiPending).switches
      = instruction.switched core.switches := by
  have before : fetched.interrupts.master = core.interrupts.master := by
    have kept := fetch_leaves_master spares core.forgotten
    rw [found] at kept
    exact kept
  have armed : fetched.cpu.eiPending = core.cpu.eiPending := by
    rw [fetch_ok found]
    rfl
  have master := run_execute_master spares instruction immediate fetched
  have latched := run_execute_eiPending bus instruction immediate fetched
  rw [completed_switches, master, latched, armed, before]
  cases instruction <;> simp [Instruction.switched, switches]

/-- Behind an interrupt that is served, both are off. -/
theorem served_switches (source : Source) (core : Core μ)
    : ((dispatch bus source).run core).2.switches = (false, false) := by
  have stacked : (core.stacked bus).1.master = false :=
    (spares.write _ _ _ _).trans (spares.write _ _ _ _)
  rw [run_dispatch]
  exact Prod.ext stacked rfl

/-- An undefined opcode moves nothing of the processor. -/
theorem faulted_switches {fault : Fault}
    (found : (fetch bus).run core.forgotten = (.error fault, fetched))
    : fetched.cpu = core.forgotten.cpu ∧ fetched.switches = core.switches := by
  obtain rfl := fetch_error found
  have kept := spares.read core.cpu.registers.pc core.interrupts core.memory
  exact ⟨rfl, Prod.ext kept rfl⟩

end

-----------------------------------------------------------------------------------------
-- Processors that are armed
-----------------------------------------------------------------------------------------

/-- A processor that is armed does not wait. -/
def Alert (core : Core μ) : Prop :=
  core.cpu.eiPending = true → core.cpu.halted = false ∧ core.cpu.stopped = false

/-- A step has moved a switch for one of the reasons that there are. -/
structure Moves (before : Core μ) (outcome : Except Fault Nat) (after : Core μ) : Prop where
  on (off : before.interrupts.master = false) (on : after.interrupts.master = true)
    : after.cpu.lastInstruction = some .reti
      ∨ before.cpu.eiPending = true
        ∧ ∃ instruction, after.cpu.lastInstruction = some instruction ∧ instruction ≠ .di
  off (on : before.interrupts.master = true) (off : after.interrupts.master = false)
    : after.cpu.lastInstruction = some .di ∨ ∃ source, after.cpu.lastInterrupt = some source
  armed (armed : after.cpu.eiPending = true)
    : (after.cpu.lastInstruction = some .ei ∧ before.cpu.eiPending = false)
      ∨ before.cpu.eiPending = true ∧ ∃ fault, outcome = .error fault

/-- Whatever is called for, the next step executes an instruction that can be fetched. Behind it the
master switch is on, unless the instruction is `DI`.
-/
structure Delayed (bus : Bus μ) (core : Core μ) : Prop where
  executes {first : Instruction}
    (defined : Chart.decode? (Byte.ofInt (core.opened bus).1) = some first)
    : ∃ cycles instruction immediate,
        ((fetch bus).run core.forgotten).1 = .ok (instruction, immediate)
          ∧ ((Core.step bus).run core).1 = .ok cycles
          ∧ ((Core.step bus).run core).2.cpu.lastInstruction = some instruction
          ∧ ((Core.step bus).run core).2.cpu.lastInterrupt = none
          ∧ ((Core.step bus).run core).2.switches = (decide (instruction ≠ .di), false)

section

variable (spares : bus.SparesMaster)
include spares

/-- Only `EI` arms a processor, and does so without a wait. -/
theorem executed_alert {instruction : Instruction} {immediate : Int}
    (found : (fetch bus).run core.forgotten = (.ok (instruction, immediate), fetched))
    : (((execute bus instruction immediate).run fetched).2.completed core.cpu.eiPending).Alert := by
  intro armed
  have switched := (congrArg Prod.snd (executed_switches spares found)).symm.trans armed
  obtain ⟨halted, stopped⟩ := completed_waits ((execute bus instruction immediate).run fetched).2
    core.cpu.eiPending
  rw [halted, stopped]
  cases instruction with
  | ei =>
      have roused : fetched.cpu.halted = false ∧ fetched.cpu.stopped = false := by
        rw [fetch_ok found]
        exact ⟨rfl, rfl⟩
      exact roused
  | _ => cases switched

theorem Course.alert {outcome : Except Fault Nat} {after : Core μ}
    (course : Course bus core outcome after) (alert : core.Alert)
    : after.Alert := by
  cases course with
  | waits waiting => exact alert
  | @serves source called first =>
      intro armed
      have switched := served_switches spares source core.forgotten
      cases (congrArg Prod.snd switched).symm.trans armed
  | faults awake undisturbed found =>
      rw [Alert, (faulted_switches spares found).1]
      exact alert
  | executes awake undisturbed found => exact executed_alert spares found

theorem Reached.alert (reached : Reached bus core) : core.Alert := by
  induction reached with
  | reset fresh =>
      intro armed
      rw [fresh] at armed
      cases armed
  | @step core _ alert => exact (course bus core).alert spares alert
  | host _ _ alert => exact alert

-----------------------------------------------------------------------------------------
-- Every move of the switches
-----------------------------------------------------------------------------------------

theorem Course.moves {outcome : Except Fault Nat} {after : Core μ}
    (course : Course bus core outcome after) (alert : core.Alert)
    : core.Moves outcome after := by
  cases course with
  | waits waiting =>
      have asleep : core.cpu.eiPending = true → False := by
        intro armed
        obtain ⟨halted, stopped⟩ := alert armed
        rw [idles, halted, stopped] at waiting
        cases waiting
      constructor
      case on =>
          intro off on
          cases off.symm.trans on
      case off =>
          intro on off
          cases on.symm.trans off
      case armed => exact fun armed => (asleep armed).elim
  | @serves source called first =>
      have switched := served_switches spares source core.forgotten
      have noted := served_record bus source core
      generalize ((dispatch bus source).run core.forgotten).2 = after at switched noted ⊢
      obtain ⟨master, pending⟩ := Prod.mk.inj switched
      constructor
      case on =>
          intro _ on
          cases master.symm.trans on
      case off => exact fun _ _ => .inr ⟨source, congrArg (·.2.2) noted⟩
      case armed =>
          intro armed
          cases pending.symm.trans armed
  | @faults fault fetched awake undisturbed found =>
      obtain ⟨_, same⟩ := faulted_switches spares found
      obtain ⟨master, pending⟩ := Prod.mk.inj same
      constructor
      case on =>
          intro off on
          cases off.symm.trans (master.symm.trans on)
      case off =>
          intro on off
          cases on.symm.trans (master.symm.trans off)
      case armed => exact fun armed => .inr ⟨pending.symm.trans armed, fault, rfl⟩
  | @executes instruction immediate fetched awake undisturbed found =>
      have switched := executed_switches spares found
      have noted := congrArg (·.2.1) (executed_record found)
      generalize (completed _ _) = after at switched noted ⊢
      obtain ⟨master, pending⟩ := Prod.mk.inj switched
      constructor
      case on =>
          intro off on
          rcases Instruction.switched_on off (master.symm.trans on) with rfl | ⟨armed, other⟩
          · exact .inl noted
          · exact .inr ⟨armed, instruction, noted, other⟩
      case off =>
          intro on off
          obtain rfl := Instruction.switched_off on (master.symm.trans off)
          exact .inl noted
      case armed =>
          intro armed
          obtain ⟨rfl, unarmed⟩ := Instruction.switched_armed (pending.symm.trans armed)
          exact .inl ⟨noted, unarmed⟩

/-- An armed processor with the master switch off executes what it can fetch. -/
theorem Alert.delayed (alert : core.Alert) (switches : core.switches = (false, true))
    : Delayed bus core := by
  obtain ⟨master, armed⟩ := Prod.mk.inj switches
  obtain ⟨halted, stopped⟩ := alert armed
  have awake : core.idles = false := by
    rw [idles, halted, stopped]
    rfl
  have undisturbed : core.interrupted = false := by rw [interrupted, master]; rfl
  constructor
  intro first defined
  have opcode : Chart.decode? (Byte.ofInt (core.forgotten.opened bus).1) = some first := defined
  have found := run_fetch_defined opcode
  dsimp only at found
  generalize (fetchRest bus first core.forgotten.behind).run
    (core.forgotten.opened bus).2.roused = rest at found
  obtain ⟨⟨instruction, immediate⟩, between⟩ := rest
  have noted := executed_record found
  have switched := executed_switches spares found
  rw [switches, instruction.switched_delayed] at switched
  rw [run_step_executes bus awake undisturbed, run_executeNext found]
  refine ⟨_, instruction, immediate, congrArg Prod.fst found, rfl, ?_, ?_, switched⟩
  · exact congrArg (·.2.1) noted
  · exact congrArg (·.2.2) noted

theorem Course.arms {outcome : Except Fault Nat} {after : Core μ}
    (course : Course bus core outcome after) (off : core.switches = (false, false))
    (ei : after.cpu.lastInstruction = some .ei)
    : after.switches = (false, true) := by
  cases course with
  | waits waiting => cases ei
  | @serves source called first =>
      have noted := congrArg (·.2.1) (served_record bus source core)
      cases noted.symm.trans ei
  | faults awake undisturbed found =>
      rw [(faulted_switches spares found).1] at ei
      cases ei
  | executes awake undisturbed found =>
      have noted := congrArg (·.2.1) (executed_record found)
      obtain rfl := Option.some.inj (noted.symm.trans ei)
      rw [executed_switches spares found, off]
      rfl

end

/-- Wherever a processor has come from a reset, its switches move for one of few reasons, and a
master switch that `EI` is to turn on waits for just one more instruction.
-/
theorem Reached.switching (reached : Reached bus core) (spares : bus.SparesMaster)
    : core.Moves ((Core.step bus).run core).1 ((Core.step bus).run core).2
        ∧ (core.switches = (false, false) →
          ((Core.step bus).run core).2.cpu.lastInstruction = some .ei →
            ∀ interrupts, interrupts.master = ((Core.step bus).run core).2.interrupts.master →
              Delayed bus { ((Core.step bus).run core).2 with interrupts }) := by
  have course := course bus core
  refine ⟨course.moves spares (reached.alert spares), fun off ei interrupts same => ?_⟩
  obtain ⟨master, armed⟩ := Prod.mk.inj (course.arms spares off ei)
  have alert := (reached.step.host same).alert spares
  exact alert.delayed spares (Prod.ext (same.trans master) armed)

/-- A bus to a program that nothing changes, from where execution begins. -/
def programmed (program : List Int) : Bus Unit where
  read address interrupts memory := (program.getD (address - 0x100).toNat 0, interrupts, memory)
  write _ _ interrupts memory := (interrupts, memory)

theorem programmed_sparesMaster (program : List Int) : (programmed program).SparesMaster where
  read _ _ _ := rfl
  write _ _ _ _ := rfl

/-- A processor at its beginning, with all sources enabled. -/
def fresh : Core Unit where
  cpu := powerOn
  interrupts := { enable := 0x1F }
  memory := ()

/-- All sources at once do not come between `EI` and the instruction behind it. -/
theorem switching_requested
    : let bus := programmed [0xFB, 0x00]
      let after := ((Core.step bus).run fresh).2
      let called := { after.interrupts with requests := 0x1F }
      Reached bus fresh ∧ bus.SparesMaster ∧ fresh.switches = (false, false)
        ∧ after.cpu.lastInstruction = some .ei
        ∧ Delayed bus { after with interrupts := called }
        ∧ ((Core.step bus).run { after with interrupts := called }).2.switches = (true, false) := by
  intro bus after called
  have reached : Reached bus fresh := .reset rfl
  have spares : bus.SparesMaster := programmed_sparesMaster _
  have ei : after.cpu.lastInstruction = some .ei := by decide +kernel
  have switched : ((Core.step bus).run { after with interrupts := called }).2.switches
      = (true, false) := by
    decide +kernel
  have off : fresh.switches = (false, false) := rfl
  obtain ⟨_, delays⟩ := reached.switching spares
  have delayed := delays off (by decide +kernel) called (by decide +kernel)
  exact ⟨reached, spares, off, ei, delayed, switched⟩

/-- `EI` is not all that a processor can be armed behind: an undefined opcode leaves it armed. -/
theorem armed_undefined
    : let bus := programmed [0xFB, 0xD3]
      bus.SparesMaster
        ∧ ¬∀ core, Reached bus core → ((Core.step bus).run core).2.cpu.eiPending = true →
            ((Core.step bus).run core).2.cpu.lastInstruction = some .ei
              ∧ core.cpu.eiPending = false := by
  intro bus
  refine ⟨programmed_sparesMaster _, fun claimed => ?_⟩
  have reached : Reached bus fresh := .reset rfl
  let core := ((Core.step bus).run fresh).2
  have armed : ((Core.step bus).run core).2.cpu.eiPending = true := by decide +kernel
  have unnoted : ((Core.step bus).run core).2.cpu.lastInstruction = none := by decide +kernel
  obtain ⟨ei, _⟩ := claimed core reached.step armed
  cases unnoted.symm.trans ei

end Core

end Handheld.Cpu
