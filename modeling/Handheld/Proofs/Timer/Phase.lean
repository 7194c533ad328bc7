import Handheld.Proofs.Timer.Counting

/-! What a timer makes of its history.
The prescaler holds what has been counted since it was last started again, less whole periods. Only
the writes and the cycles between them matter, not how those cycles were handed over.
-/

namespace Handheld.Timer

/-- What can happen to a timer. -/
inductive Act
  | tick (cycles : Nat)
  | write (register : Register) (value : Int)
  deriving DecidableEq, Repr

/-- What has happened to a timer since a reset, the latest act first. -/
abbrev History := List Act

/-- The address of a register. -/
def Register.address : Register → Int
  | .div => 0xFF04
  | .tima => 0xFF05
  | .tma => 0xFF06
  | .tac => 0xFF07

/-- What an act leaves behind, unless the timer refuses it. -/
def perform (act : Act) (state : Timer × Interrupts) : Except Error (Timer × Interrupts) :=
  match act with
  | .tick cycles => .ok (state.1.tick cycles state.2)
  | .write register value => do
    let timer ← state.1.write register.address value
    return (timer, state.2)

namespace History

/-- Where a history leads. -/
def replay (interrupts : Interrupts) : History → Except Error (Timer × Interrupts)
  | [] => .ok ({}, interrupts)
  | act :: earlier => replay interrupts earlier >>= perform act

/-- What was written to the control register last. -/
def control : History → BitVec 3
  | [] => 0
  | .write .tac value :: _ => (Byte.ofInt value).setWidth 3
  | _ :: earlier => control earlier

/-- A write behind a history with which counting starts again: one to the divider, or one that
selects another rate.
-/
def RestartedBy (history : History) : Register → Int → Prop
  | .div, _ => True
  | .tac, value => (Byte.ofInt value).extractLsb' 0 2 ≠ history.control.extractLsb' 0 2
  | _, _ => False

instance (history : History)
    : (register : Register) → (value : Int) → Decidable (history.RestartedBy register value)
  | .div, _ => .isTrue trivial
  | .tac, value =>
    inferInstanceAs
      (Decidable ((Byte.ofInt value).extractLsb' 0 2 ≠ history.control.extractLsb' 0 2))
  | .tima, _ | .tma, _ => .isFalse id

/-- The cycles that have passed while the counter was running, since counting last started again. -/
def counted : History → Nat
  | [] => 0
  | .tick cycles :: earlier =>
    counted earlier + if (control earlier).getLsbD 2 then cycles else 0
  | .write register value :: earlier =>
    if RestartedBy earlier register value then 0 else counted earlier

/-- The cycles since the last write, and all writes, each with the cycles between it and the write
before. The latest write is the first.
-/
def outline : History → Nat × List (Register × Int × Nat)
  | [] => (0, [])
  | .tick cycles :: earlier => ((outline earlier).1 + cycles, (outline earlier).2)
  | .write register value :: earlier =>
    (0, (register, value, (outline earlier).1) :: (outline earlier).2)

end History

-----------------------------------------------------------------------------------------
-- Histories
-----------------------------------------------------------------------------------------

/-- A register is found at its address, so that no write is refused. -/
theorem perform_write (register : Register) (value : Int) (state : Timer × Interrupts)
    : perform (.write register value) state
      = .ok (state.1.set register (Byte.ofInt value), state.2) := by
  cases register <;> rfl

namespace History

theorem replay_cons {interrupts : Interrupts} {earlier : History} {state : Timer × Interrupts}
    (replayed : earlier.replay interrupts = .ok state) (act : Act)
    : replay interrupts (act :: earlier) = perform act state := by
  rw [replay, replayed]
  rfl

/-- A timer stands where a history has led it. -/
structure Leads (history : History) (t : Timer) : Prop where
  tac : t.tac = history.control
  prescaler : t.prescaler = (history.counted % t.period : Nat)

theorem Leads.inPhase {history : History} {t : Timer} (leads : history.Leads t) : t.InPhase := by
  have below := Nat.mod_lt history.counted t.period_pos
  rw [InPhase, leads.prescaler]
  omega

theorem Leads.tick {history : History} {t : Timer} (leads : history.Leads t) (cycles : Nat)
    (interrupts : Interrupts)
    : Leads (.tick cycles :: history) (t.tick cycles interrupts).1 := by
  have running : t.enabled = history.control.getLsbD 2 := by rw [enabled, leads.tac]
  cases enabled : t.enabled with
  | false =>
      have same : counted (.tick cycles :: history) = history.counted := by
        rw [counted, ← running, enabled]
        rfl
      rw [tick_stopped enabled]
      exact ⟨leads.tac, by rw [same]; exact leads.prescaler⟩
  | true =>
      have more : counted (.tick cycles :: history) = history.counted + cycles := by
        rw [counted, ← running, enabled]
        rfl
      refine ⟨(tick_tac _ _ _).trans leads.tac, ?_⟩
      rw [tick_period, more, tick_running leads.inPhase.1 enabled, recount, leads.prescaler]
      simp only [Int.natCast_emod, Int.natCast_add, Int.emod_add_emod]

/-- Of the control register, two bits select the rate. -/
theorem sameRate_iff (value : Byte) (tac : BitVec 3)
    : (value.setWidth 3).toNat % 4 = tac.toNat % 4
        ↔ value.extractLsb' 0 2 = tac.extractLsb' 0 2 := by
  rw [← BitVec.toNat_inj, BitVec.extractLsb'_toNat, BitVec.extractLsb'_toNat,
    BitVec.toNat_setWidth]
  omega

theorem Leads.set {history : History} {t : Timer} (leads : history.Leads t) (register : Register)
    (value : Int)
    : Leads (.write register value :: history) (t.set register (Byte.ofInt value)) := by
  cases register with
  | div =>
      have again : counted (.write .div value :: history) = 0 := if_pos trivial
      exact ⟨leads.tac, by rw [again, Nat.zero_mod]; rfl⟩
  | tima | tma => exact ⟨leads.tac, leads.prescaler⟩
  | tac =>
      refine ⟨rfl, ?_⟩
      have rate := sameRate_iff (Byte.ofInt value) t.tac
      rw [leads.tac] at rate
      by_cases same : (Byte.ofInt value).extractLsb' 0 2 = history.control.extractLsb' 0 2
      · have kept : (t.set .tac (Byte.ofInt value)).period = t.period :=
          period_eq (leads.tac ▸ rate.mpr same)
        have prescaler : (t.set .tac (Byte.ofInt value)).prescaler = t.prescaler :=
          if_pos (leads.tac ▸ rate.mpr same)
        have onward : counted (.write .tac value :: history) = history.counted :=
          if_neg fun other => other same
        rw [kept, prescaler, onward, leads.prescaler]
      · have prescaler : (t.set .tac (Byte.ofInt value)).prescaler = 0 :=
          if_neg (leads.tac ▸ mt rate.mp same)
        have again : counted (.write .tac value :: history) = 0 := if_pos same
        rw [prescaler, again, Nat.zero_mod]
        rfl

/-- No history is refused. -/
theorem exists_leads (interrupts : Interrupts) (history : History)
    : ∃ state, history.replay interrupts = .ok state ∧ history.Leads state.1 := by
  induction history with
  | nil => exact ⟨_, rfl, rfl, rfl⟩
  | cons act earlier ih =>
      obtain ⟨state, replayed, leads⟩ := ih
      rw [replay_cons replayed]
      cases act with
      | tick cycles => exact ⟨_, rfl, leads.tick cycles state.2⟩
      | write register value => exact ⟨_, perform_write _ _ _, leads.set register value⟩

/-- What the writes of an outline and the cycles between them come to. -/
def condense (interrupts : Interrupts) : List (Register × Int × Nat) → Timer × Interrupts
  | [] => ({}, interrupts)
  | (register, value, cycles) :: earlier =>
    let before := condense interrupts earlier
    let ticked := before.1.tick cycles before.2
    (ticked.1.set register (Byte.ofInt value), ticked.2)

theorem condense_inPhase (interrupts : Interrupts) (writes : List (Register × Int × Nat))
    : (condense interrupts writes).1.InPhase := by
  induction writes with
  | nil => exact inPhase_of_zero rfl
  | cons write earlier ih => exact (ih.tick write.2.2 _).set write.1 _

/-- A history leads where its outline does, with one call for the cycles between two writes. -/
theorem replay_eq (interrupts : Interrupts) (history : History)
    : history.replay interrupts
      = .ok ((condense interrupts history.outline.2).1.tick history.outline.1
          (condense interrupts history.outline.2).2) := by
  induction history with
  | nil => exact congrArg Except.ok ((inPhase_of_zero rfl).tick_zero interrupts).symm
  | cons act earlier ih =>
      have inPhase := condense_inPhase interrupts (outline earlier).2
      rw [replay_cons ih]
      cases act with
      | tick cycles => rw [perform, inPhase.tick_tick, outline]
      | write register value =>
          have later := condense_inPhase interrupts (outline (.write register value :: earlier)).2
          rw [perform_write]
          exact congrArg Except.ok (later.tick_zero _).symm

/-- From a reset on, the prescaler holds what was counted since counting last started again, modulo
the period, and how the cycles between two writes are divided among calls makes no difference to the
timer or its requests.
-/
theorem exists_replay (interrupts : Interrupts) (history : History)
    : ∃ timer after, history.replay interrupts = .ok (timer, after)
        ∧ timer.tac = history.control
        ∧ timer.prescaler = (history.counted % timer.period : Nat)
        ∧ ∀ other : History, other.outline = history.outline →
          other.replay interrupts = .ok (timer, after) := by
  obtain ⟨⟨timer, after⟩, replayed, leads⟩ := exists_leads interrupts history
  refine ⟨timer, after, replayed, leads.tac, leads.prescaler, fun other same => ?_⟩
  rw [replay_eq, same, ← replay_eq, replayed]

/-- The counter keeps its phase while it is off, and overflows on the way. -/
theorem exists_replay_split
    : let whole : History :=
        [.tick 9, .write .tac 5, .tick 7, .write .tac 1, .tick 40, .write .tac 0x1FD,
          .write .tima 0xFF]
      let split : History :=
        [.tick 4, .tick 5, .write .tac 5, .tick 7, .tick 0, .write .tac 1, .tick 24, .tick 16,
          .write .tac 0x1FD, .write .tima 0xFF]
      split.outline = whole.outline ∧ whole.counted = 49
        ∧ ∃ timer after, whole.replay {} = .ok (timer, after) ∧ timer.prescaler = 1
          ∧ split.replay {} = .ok (timer, after) := by
  intro whole split
  obtain ⟨timer, after, replayed, tac, prescaler, alike⟩ := exists_replay {} whole
  have control : whole.control = 5 := by decide
  have counted : whole.counted = 49 := by decide
  have period : timer.period = 16 := by
    rw [period, tac, control]
    rfl
  rw [counted, period] at prescaler
  exact ⟨rfl, counted, timer, after, replayed, prescaler, alike split rfl⟩

end History

end Handheld.Timer
