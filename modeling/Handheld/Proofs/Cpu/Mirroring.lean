import Handheld.Proofs.Cpu.Course

/-! Two processors on buses that answer the same.
They do the same in every step, whatever numbers they hand to the buses and however many
instructions they have counted, and keep what surrounds them related as long as the accesses do.
-/

namespace Handheld.Cpu

variable {μ ν α β : Type} {R : Interrupts × μ → Interrupts × ν → Prop}
variable {lost : Interrupts × μ → Prop}

-----------------------------------------------------------------------------------------
-- Buses and processors side by side
-----------------------------------------------------------------------------------------

/-- Two buses answer the same in related surroundings, and keep them related. An acknowledgement is
left open, as it may lose what the relation is about.
-/
structure Bus.Mirrors (R : Interrupts × μ → Interrupts × ν → Prop) (bus : Bus μ) (other : Bus ν)
    : Prop where
  master : ∀ {s t}, R s t → s.1.master = t.1.master
  pending : ∀ {s t}, R s t → s.1.pending = t.1.pending
  setMaster
    : ∀ {s t}, R s t → ∀ enabled, R (s.1.setMaster enabled, s.2) (t.1.setMaster enabled, t.2)
  answer
    : ∀ {s t}, R s t → ∀ address,
        (bus.read address s.1 s.2).1 = (other.read address t.1 t.2).1
  read
    : ∀ {s t}, R s t → ∀ address, R (bus.read address s.1 s.2).2 (other.read address t.1 t.2).2
  write
    : ∀ {s t}, R s t → ∀ address value,
        R (bus.write address value s.1 s.2) (other.write address value t.1 t.2)

/-- Nothing that happens to the surroundings brings back what is lost. -/
structure Bus.Traps (lost : Interrupts × μ → Prop) (bus : Bus μ) : Prop where
  setMaster : ∀ {s}, lost s → ∀ enabled, lost (s.1.setMaster enabled, s.2)
  acknowledge : ∀ {s}, lost s → ∀ source, lost (s.1.acknowledge source, s.2)
  read : ∀ {s}, lost s → ∀ address, lost (bus.read address s.1 s.2).2
  write : ∀ {s}, lost s → ∀ address value, lost (bus.write address value s.1 s.2)

/-- Two buses answer the same and keep their surroundings related, until an access gets lost. -/
structure Bus.MirrorsUntil (lost : Interrupts × μ → Prop)
    (R : Interrupts × μ → Interrupts × ν → Prop) (bus : Bus μ) (other : Bus ν)
    : Prop where
  traps : bus.Traps lost
  master : ∀ {s t}, R s t → s.1.master = t.1.master
  pending : ∀ {s t}, R s t → s.1.pending = t.1.pending
  setMaster
    : ∀ {s t}, R s t → ∀ enabled, R (s.1.setMaster enabled, s.2) (t.1.setMaster enabled, t.2)
  read
    : ∀ {s t}, R s t → ∀ address,
        lost (bus.read address s.1 s.2).2
        ∨ (bus.read address s.1 s.2).1 = (other.read address t.1 t.2).1
          ∧ R (bus.read address s.1 s.2).2 (other.read address t.1 t.2).2
  write
    : ∀ {s t}, R s t → ∀ address value,
        lost (bus.write address value s.1 s.2)
        ∨ R (bus.write address value s.1 s.2) (other.write address value t.1 t.2)

/-- Buses that always answer the same do so until nothing gets lost. -/
theorem Bus.Mirrors.always {bus : Bus μ} {other : Bus ν} (mirrors : bus.Mirrors R other)
    : bus.MirrorsUntil (fun _ => False) R other where
  traps := ⟨fun none _ => none, fun none _ => none, fun none _ => none, fun none _ _ => none⟩
  master := mirrors.master
  pending := mirrors.pending
  setMaster := mirrors.setMaster
  read related address := .inr ⟨mirrors.answer related address, mirrors.read related address⟩
  write related address value := .inr (mirrors.write related address value)

/-- What surrounds a processor. -/
def Core.around (core : Core μ) : Interrupts × μ :=
  (core.interrupts, core.memory)

/-- Two processors are equal, and what surrounds them is related. -/
structure Core.Mirrored (R : Interrupts × μ → Interrupts × ν → Prop) (c : Core μ) (d : Core ν)
    : Prop where
  cpu : c.cpu = d.cpu
  around : R (c.interrupts, c.memory) (d.interrupts, d.memory)

/-- A processor that has counted some more instructions. -/
def ahead (more : Int) (cpu : Cpu) : Cpu :=
  { cpu with instructionCount := cpu.instructionCount + more }

theorem ahead_zero (cpu : Cpu) : cpu.ahead 0 = cpu :=
  congrArg (fun count => { cpu with instructionCount := count }) (Int.add_zero _)

/-- One processor has counted some more instructions, which is all that tells the two apart. What
surrounds them is related.
-/
structure Core.Ahead (more : Int) (R : Interrupts × μ → Interrupts × ν → Prop) (c : Core μ)
    (d : Core ν)
    : Prop where
  cpu : c.cpu = d.cpu.ahead more
  around : R (c.interrupts, c.memory) (d.interrupts, d.memory)

theorem Core.Mirrored.ahead {c : Core μ} {d : Core ν} (mirrored : c.Mirrored R d)
    : c.Ahead 0 R d :=
  ⟨mirrored.cpu.trans d.cpu.ahead_zero.symm, mirrored.around⟩

theorem Core.Ahead.mirrored {c : Core μ} {d : Core ν} (level : c.Ahead 0 R d) : c.Mirrored R d :=
  ⟨level.cpu.trans d.cpu.ahead_zero, level.around⟩

variable {more : Int}

/-- Two programs give the same answer and leave the processors as far apart, unless the first of them
gets lost. Once it is lost, it remains so.
-/
structure Mirroring (lost : Interrupts × μ → Prop) (more : Int)
    (R : Interrupts × μ → Interrupts × ν → Prop) (p : StateM (Core μ) α) (q : StateM (Core ν) α)
    : Prop where
  strays : ∀ {c : Core μ}, lost c.around → lost (p.run c).2.around
  mirrors
    : ∀ {c d}, c.Ahead more R d →
        lost (p.run c).2.around ∨ (p.run c).1 = (q.run d).1 ∧ (p.run c).2.Ahead more R (q.run d).2

namespace Mirroring

-----------------------------------------------------------------------------------------
-- The processor alone
-----------------------------------------------------------------------------------------

theorem bind {p : StateM (Core μ) α} {q : StateM (Core ν) α} {f : α → StateM (Core μ) β}
    {g : α → StateM (Core ν) β} (first : Mirroring lost more R p q)
    (rest : ∀ a, Mirroring lost more R (f a) (g a))
    : Mirroring lost more R (p >>= f) (q >>= g) where
  strays gone := (rest _).strays (first.strays gone)
  mirrors {c d} apart := by
    rcases first.mirrors apart with gone | ⟨same, between⟩
    · exact .inl ((rest _).strays gone)
    · have right : (q >>= g).run d = (g (p.run c).1).run (q.run d).2 := by
        rw [same]
        rfl
      rw [right]
      exact (rest _).mirrors between

theorem pure (a : α) : Mirroring lost more R (Pure.pure a) (Pure.pure a) :=
  ⟨id, fun apart => .inr ⟨rfl, apart⟩⟩

theorem answering {p : StateM (Core μ) α} {q : StateM (Core ν) α}
    (first : Mirroring lost more R p q) (answer : β)
    : Mirroring lost more R (p >>= fun _ => Pure.pure answer) (q >>= fun _ => Pure.pure answer) :=
  first.bind fun _ => .pure answer

/-- What is done with the processor itself may look at everything but the count. -/
theorem onGetCpu {f : Cpu → StateM (Core μ) α} {g : Cpu → StateM (Core ν) α}
    (rest : ∀ cpu : Cpu, Mirroring lost more R (f (cpu.ahead more)) (g cpu))
    : Mirroring lost more R (Core.getCpu >>= f) (Core.getCpu >>= g) where
  strays {c} gone := by
    have back : (c.cpu.ahead (-more)).ahead more = c.cpu :=
      congrArg (fun count => { c.cpu with instructionCount := count }) (Int.neg_add_cancel_right _ _)
    have looked := (rest (c.cpu.ahead (-more))).strays gone
    rw [back] at looked
    exact looked
  mirrors {c d} apart := by
    have looked := (rest d.cpu).mirrors apart
    rw [← apart.cpu] at looked
    exact looked

/-- A change that has nothing to do with the count leaves the processors as far apart. -/
theorem onCpu (change : Cpu → Cpu)
    (blind
      : ∀ cpu : Cpu, change (cpu.ahead more) = (change cpu).ahead more := by exact fun _ => rfl)
    : Mirroring lost more R (Core.onCpu change) (Core.onCpu change) where
  strays gone := gone
  mirrors {_ d} apart :=
    .inr ⟨rfl, (congrArg change apart.cpu).trans (blind d.cpu), apart.around⟩

/-- An instruction more counts on both sides. -/
theorem count
    : Mirroring lost more R
        (Core.onCpu fun cpu => { cpu with instructionCount := cpu.instructionCount + 1 })
        (Core.onCpu fun cpu => { cpu with instructionCount := cpu.instructionCount + 1 }) :=
  onCpu _ fun cpu =>
    congrArg (fun count => { cpu with instructionCount := count }) (Int.add_right_comm _ _ _)

theorem getRegisters : Mirroring lost more R Core.getRegisters Core.getRegisters :=
  onGetCpu fun cpu => .pure cpu.registers

theorem onRegisters (change : Registers → Registers)
    : Mirroring lost more R (Core.onRegisters change) (Core.onRegisters change) :=
  onCpu _

theorem jumpTo (address : Int) : Mirroring lost more R (Core.jumpTo address) (Core.jumpTo address) :=
  onRegisters _

theorem isTaken (condition : Option Condition)
    : Mirroring lost more R (Core.isTaken condition) (Core.isTaken condition) where
  strays gone := by
    rw [Core.run_isTaken]
    exact gone
  mirrors apart := by
    rw [Core.run_isTaken, Core.run_isTaken, apart.cpu]
    exact .inr ⟨rfl, apart⟩

/-- What depends on a test is the same if its work is. -/
theorem onTest {condition : Option Condition} {work : StateM (Core μ) PUnit}
    {work' : StateM (Core ν) PUnit} (same : Mirroring lost more R work work')
    : Mirroring lost more R
        (Core.isTaken condition >>= fun taken =>
          if taken then work >>= fun _ => Pure.pure taken else Pure.pure taken)
        (Core.isTaken condition >>= fun taken =>
          if taken then work' >>= fun _ => Pure.pure taken else Pure.pure taken) := by
  refine (isTaken condition).bind fun taken => ?_
  cases taken with
  | false => exact .pure _
  | true => exact same.answering _

theorem addressOf (immediate : Int) (pointer : Pointer)
    : Mirroring lost more R (Core.addressOf immediate pointer) (Core.addressOf immediate pointer) := by
  refine getRegisters.bind fun _ => ?_
  cases pointer with
  | hlUp | hlDown => exact (onRegisters _).answering _
  | _ => exact .pure _

-----------------------------------------------------------------------------------------
-- Accesses
-----------------------------------------------------------------------------------------

variable {bus : Bus μ} {other : Bus ν} (mirrors : bus.MirrorsUntil lost R other)
include mirrors

theorem setMaster (enabled : Bool)
    : Mirroring lost more R (Core.onInterrupts (·.setMaster enabled))
        (Core.onInterrupts (·.setMaster enabled)) where
  strays gone := mirrors.traps.setMaster gone enabled
  mirrors apart := .inr ⟨rfl, apart.cpu, mirrors.setMaster apart.around enabled⟩

theorem read (address : Int)
    : Mirroring lost more R (Core.read bus address) (Core.read other address) where
  strays gone := mirrors.traps.read gone address
  mirrors apart :=
    (mirrors.read apart.around address).imp_right fun ⟨answer, related⟩ =>
      ⟨answer, apart.cpu, related⟩

theorem write (address value : Int)
    : Mirroring lost more R (Core.write bus address value) (Core.write other address value) where
  strays gone := mirrors.traps.write gone address value
  mirrors apart :=
    (mirrors.write apart.around address value).imp_right fun related => ⟨rfl, apart.cpu, related⟩

theorem readByte (address : Int)
    : Mirroring lost more R (Core.readByte bus address) (Core.readByte other address) :=
  (read mirrors address).bind fun _ => .pure _

theorem push (value : Int) : Mirroring lost more R (Core.push bus value) (Core.push other value) := by
  refine (onRegisters _).bind fun _ => getRegisters.bind fun _ => ?_
  refine (write mirrors _ _).bind fun _ => (onRegisters _).bind fun _ => ?_
  exact getRegisters.bind fun _ => write mirrors _ _

theorem pop : Mirroring lost more R (Core.pop bus) (Core.pop other) := by
  refine getRegisters.bind fun _ => (readByte mirrors _).bind fun _ => ?_
  refine (onRegisters _).bind fun _ => getRegisters.bind fun _ => ?_
  exact (readByte mirrors _).bind fun _ => (onRegisters _).answering _

theorem readOperand (immediate : Int) (operand : Operand)
    : Mirroring lost more R (Core.readOperand bus immediate operand)
        (Core.readOperand other immediate operand) := by
  cases operand with
  | register register => exact getRegisters.bind fun _ => .pure _
  | memory pointer => exact (addressOf immediate pointer).bind fun _ => readByte mirrors _
  | immediate => exact .pure _

theorem writeOperand (immediate : Int) (operand : Operand) (value : Int)
    : Mirroring lost more R (Core.writeOperand bus immediate operand value)
        (Core.writeOperand other immediate operand value) := by
  cases operand with
  | register register => exact onRegisters (·.set8 register (value % 256))
  | memory pointer => exact (addressOf immediate pointer).bind fun _ => write mirrors _ _
  | immediate => exact .pure _

-----------------------------------------------------------------------------------------
-- Instructions
-----------------------------------------------------------------------------------------

/-- Every instruction does the same on both sides. -/
theorem execute (instruction : Instruction) (immediate : Int)
    : Mirroring lost more R (Core.execute bus instruction immediate)
        (Core.execute other instruction immediate) := by
  cases instruction with
  | nop | extend => exact .pure _
  | stop => exact (onCpu _).bind fun _ => (write mirrors _ _).answering _
  | halt =>
      refine ⟨fun {c} gone => ?_, fun {c d} apart => ?_⟩
      · have still : ((Core.execute bus .halt immediate).run c).2.around = c.around := by
          rw [Core.run_halt]
          dsimp only
          split <;> rfl
        rw [still]
        exact gone
      -- Only the master switch and the enabled requests tell whether there is to be a wait.
      · rw [Core.run_halt, Core.run_halt, mirrors.master apart.around, Interrupts.hasPending,
          mirrors.pending apart.around, ← Interrupts.hasPending]
        dsimp only
        cases !d.interrupts.master && d.interrupts.hasPending with
        | false =>
            rw [if_neg nofun, if_neg nofun]
            exact .inr ⟨rfl, congrArg (fun cpu : Cpu => { cpu with halted := true }) apart.cpu,
              apart.around⟩
        | true =>
            rw [if_pos rfl, if_pos rfl]
            exact .inr ⟨rfl, congrArg (fun cpu : Cpu => { cpu with haltBug := true }) apart.cpu,
              apart.around⟩
  | di => exact (setMaster mirrors _).bind fun _ => (onCpu _).answering _
  | ei => exact (onCpu _).answering _
  | load target source =>
      exact (readOperand mirrors _ _).bind fun _ => (writeOperand mirrors _ _ _).answering _
  | storeSp =>
      refine getRegisters.bind fun _ => (write mirrors _ _).bind fun _ => ?_
      exact (write mirrors _ _).answering _
  | push source => exact getRegisters.bind fun _ => (push mirrors _).answering _
  | pop target => exact (pop mirrors).bind fun _ => (onRegisters _).answering _
  | inc target | dec target =>
      refine (readOperand mirrors _ _).bind fun _ => (onRegisters _).bind fun _ => ?_
      exact (writeOperand mirrors _ _ _).answering _
  | arithmetic operation source | bit index source =>
      exact (readOperand mirrors _ _).bind fun _ => (onRegisters _).answering _
  | jump condition => exact onTest (jumpTo _)
  | jumpRelative condition => exact onTest (onRegisters _)
  | call condition =>
      exact onTest (getRegisters.bind fun _ => (push mirrors _).bind fun _ => jumpTo immediate)
  | ret condition =>
      have returned : Mirroring lost more R (Core.pop bus >>= Core.jumpTo)
          (Core.pop other >>= Core.jumpTo) :=
        (pop mirrors).bind jumpTo
      exact onTest returned
  | reti =>
      refine (pop mirrors).bind fun _ => (jumpTo _).bind fun _ => ?_
      exact (setMaster mirrors _).answering _
  | rst vector =>
      exact getRegisters.bind fun _ => (push mirrors _).bind fun _ => (jumpTo _).answering _
  | rotate operation target =>
      refine (readOperand mirrors _ _).bind fun _ => getRegisters.bind fun _ => ?_
      exact (onRegisters _).bind fun _ => (writeOperand mirrors _ _ _).answering _
  | reset index target | set index target =>
      exact (readOperand mirrors _ _).bind fun _ => (writeOperand mirrors _ _ _).answering _
  | _ => exact (onRegisters _).answering _

theorem fetchRest (first : Instruction) (address : Int)
    : Mirroring lost more R (Core.fetchRest bus first address) (Core.fetchRest other first address) := by
  rw [Core.fetchRest, Core.fetchRest]
  split
  · exact (readByte mirrors _).bind fun _ => .pure _
  split
  · exact (readByte mirrors _).bind fun _ => .pure _
  split
  · exact (readByte mirrors _).bind fun _ => (readByte mirrors _).bind fun _ => .pure _
  · exact .pure _

theorem fetch : Mirroring lost more R (Core.fetch bus) (Core.fetch other) := by
  refine getRegisters.bind fun registers => (read mirrors _).bind fun opcode => ?_
  dsimp only
  cases Chart.decode? (Byte.ofInt opcode) with
  | none => exact .pure _
  | some first =>
      refine onGetCpu fun _ => (onCpu _).bind fun _ => ?_
      refine (fetchRest mirrors _ _).bind fun _ => (jumpTo _).bind fun _ => ?_
      exact (onCpu _).answering _

theorem executeNext : Mirroring lost more R (Core.executeNext bus) (Core.executeNext other) := by
  refine onGetCpu fun before => (fetch mirrors).bind fun answer => ?_
  cases answer with
  | error fault => exact .pure _
  | ok found =>
      refine (execute mirrors found.1 found.2).bind fun taken => onGetCpu fun after => ?_
      by_cases pending : (before.eiPending && after.eiPending) = true
      · have pending' : ((before.ahead more).eiPending && (after.ahead more).eiPending) = true :=
          pending
        rw [if_pos pending, if_pos pending']
        refine (onCpu _).bind fun _ => (setMaster mirrors true).bind fun _ => ?_
        exact count.answering _
      · have pending' : ¬ ((before.ahead more).eiPending && (after.ahead more).eiPending) = true :=
          pending
        rw [if_neg pending, if_neg pending']
        exact count.answering _

theorem wake : Mirroring lost more R (Core.wake (μ := μ)) (Core.wake (μ := ν)) := by
  refine onGetCpu fun _ => (onCpu _).bind fun _ => ?_
  exact (setMaster mirrors false).answering _

theorem dispatch {source : Source}
    (acknowledged
      : ∀ {s t}, R s t → R (s.1.acknowledge source, s.2) (t.1.acknowledge source, t.2))
    : Mirroring lost more R (Core.dispatch bus source) (Core.dispatch other source) := by
  have cleared : Mirroring lost more R (Core.onInterrupts (Interrupts.acknowledge source))
      (Core.onInterrupts (Interrupts.acknowledge source)) :=
    ⟨fun gone => mirrors.traps.acknowledge gone source,
      fun apart => .inr ⟨rfl, apart.cpu, acknowledged apart.around⟩⟩
  refine (wake mirrors).bind fun _ => (push mirrors _).bind fun _ => cleared.bind fun _ => ?_
  exact (jumpTo _).bind fun _ => (onCpu _).answering _

end Mirroring

-----------------------------------------------------------------------------------------
-- Steps
-----------------------------------------------------------------------------------------

/-- A step does the same on both sides unless it gets lost, whatever both have done and counted
before, as far as the relation outlives the acknowledgement of the source that is served.
-/
theorem Core.Ahead.step_until {bus : Bus μ} {other : Bus ν}
    (mirrors : bus.MirrorsUntil lost R other) {c : Core μ} {d : Core ν}
    (start : c.forgotten.Ahead more R d.forgotten)
    (acknowledged
      : ∀ source, d.interrupted = true → d.interrupts.highest? = some source →
        ∀ {s t}, R s t → R (s.1.acknowledge source, s.2) (t.1.acknowledge source, t.2))
    : lost ((Core.step bus).run c).2.around
        ∨ ((Core.step bus).run c).1 = ((Core.step other).run d).1
          ∧ ((Core.step bus).run c).2.Ahead more R ((Core.step other).run d).2 := by
  have around : R (c.interrupts, c.memory) (d.interrupts, d.memory) := start.around
  have pending : c.interrupts.hasPending = d.interrupts.hasPending := by
    rw [Interrupts.hasPending, mirrors.pending around]
    rfl
  have waiting : (c.cpu.halted || c.cpu.stopped) = (d.cpu.halted || d.cpu.stopped) :=
    congrArg (fun cpu => cpu.halted || cpu.stopped) start.cpu
  have idles : c.idles = d.idles := by rw [Core.idles, Core.idles, waiting, pending]
  have interrupted : c.interrupted = d.interrupted := by
    rw [Core.interrupted, Core.interrupted, mirrors.master around, pending]
  cases awake : d.idles with
  | true =>
      rw [Core.run_step_idles bus (idles.trans awake), Core.run_step_idles other awake]
      exact .inr ⟨rfl, start⟩
  | false =>
      cases undisturbed : d.interrupted with
      | true =>
          obtain ⟨enabled, up⟩ := Bool.and_eq_true_iff.mp undisturbed
          obtain ⟨source, first⟩ := Interrupts.exists_highest? up
          have enabled' := (mirrors.master around).trans enabled
          have first' : c.interrupts.highest? = some source := by
            rw [Interrupts.highest?, mirrors.pending around]
            exact first
          rw [Core.run_step_dispatches bus enabled' first',
            Core.run_step_dispatches other enabled first]
          have served := (Mirroring.dispatch mirrors (acknowledged source undisturbed first)).mirrors
            start
          exact served.imp_right fun served => ⟨rfl, served.2⟩
      | false =>
          rw [Core.run_step_executes bus (idles.trans awake) (interrupted.trans undisturbed),
            Core.run_step_executes other awake undisturbed]
          exact (Mirroring.executeNext mirrors).mirrors start

/-- What is lost before a step is lost behind it. Witness: nothing at all is related. -/
theorem Bus.Traps.step {bus : Bus μ} (traps : bus.Traps lost) {core : Core μ}
    (gone : lost core.around)
    : lost ((Core.step bus).run core).2.around := by
  have alone : bus.MirrorsUntil lost (fun (_ : Interrupts × μ) (_ : Interrupts × μ) => False) bus :=
    ⟨traps, False.elim, False.elim, fun related _ => related, fun related _ => related.elim,
      fun related _ _ => related.elim⟩
  cases awake : core.idles with
  | true =>
      rw [Core.run_step_idles bus awake]
      exact gone
  | false =>
      cases undisturbed : core.interrupted with
      | true =>
          obtain ⟨enabled, up⟩ := Bool.and_eq_true_iff.mp undisturbed
          obtain ⟨source, first⟩ := Interrupts.exists_highest? up
          have served : Mirroring lost 0 (fun _ _ => False) (Core.dispatch bus source)
              (Core.dispatch bus source) := .dispatch alone False.elim
          rw [Core.run_step_dispatches bus enabled first]
          exact served.strays (c := core.forgotten) gone
      | false =>
          have executed : Mirroring lost 0 (fun _ _ => False) (Core.executeNext bus)
              (Core.executeNext bus) := .executeNext alone
          rw [Core.run_step_executes bus awake undisturbed]
          exact executed.strays (c := core.forgotten) gone

/-- A step does the same on both sides, whatever both have done and counted before, as far as the
relation outlives the acknowledgement of the source that is served.
-/
theorem Core.Ahead.step {bus : Bus μ} {other : Bus ν} (mirrors : bus.Mirrors R other)
    {c : Core μ} {d : Core ν} (start : c.forgotten.Ahead more R d.forgotten)
    (acknowledged
      : ∀ source, d.interrupted = true → d.interrupts.highest? = some source →
        ∀ {s t}, R s t → R (s.1.acknowledge source, s.2) (t.1.acknowledge source, t.2))
    : ((Core.step bus).run c).1 = ((Core.step other).run d).1
        ∧ ((Core.step bus).run c).2.Ahead more R ((Core.step other).run d).2 :=
  (start.step_until mirrors.always acknowledged).resolve_left id

theorem Core.Mirrored.forgotten {c : Core μ} {d : Core ν} (mirrored : c.Mirrored R d)
    : c.forgotten.Mirrored R d.forgotten :=
  ⟨congrArg (fun cpu => { cpu with lastInstruction := none, lastInterrupt := none }) mirrored.cpu,
    mirrored.around⟩

/-- Equal processors are equal behind a step. -/
theorem Core.Mirrored.step {bus : Bus μ} {other : Bus ν} (mirrors : bus.Mirrors R other)
    {c : Core μ} {d : Core ν} (mirrored : c.Mirrored R d)
    (acknowledged
      : ∀ source, d.interrupted = true → d.interrupts.highest? = some source →
        ∀ {s t}, R s t → R (s.1.acknowledge source, s.2) (t.1.acknowledge source, t.2))
    : ((Core.step bus).run c).1 = ((Core.step other).run d).1
        ∧ ((Core.step bus).run c).2.Mirrored R ((Core.step other).run d).2 := by
  obtain ⟨outcome, level⟩ := mirrored.forgotten.ahead.step mirrors acknowledged
  exact ⟨outcome, level.mirrored⟩

end Handheld.Cpu
