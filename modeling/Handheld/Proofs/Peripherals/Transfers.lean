import Handheld.Proofs.Cpu.Range
import Handheld.Proofs.Memory.Signals

/-! What the serial link makes of the accesses to it.
It sends a byte whenever a transfer is asked for on its own clock. What it has sent, what it shows
and how often it calls can all be told from the writes since a reset.
-/

namespace Handheld.Serial

/-- What the bus can do to the link. -/
inductive Access
  | read (register : Register)
  | write (register : Register) (value : Int)
  deriving DecidableEq, Repr

/-- What has been done to a link since a reset, the latest access first. -/
abbrev History := List Access

/-- The address of a register. -/
def Register.address : Register → Int
  | .data => 0xFF01
  | .control => 0xFF02

/-- What an access leaves behind, unless the link refuses it. -/
def perform (access : Access) (state : Serial × Interrupts) : Except Error (Serial × Interrupts) :=
  match access with
  | .read register => do
    let _ ← state.1.read register.address
    return state
  | .write register value => state.1.write register.address value state.2

/-- The access asks for a transfer on the clock of this side. -/
def Access.transfers : Access → Bool
  | .write .control value => Bits.bit 7 value && Bits.bit 0 value
  | _ => false

namespace History

/-- Where a history leads. -/
def replay (start : Serial × Interrupts) : History → Except Error (Serial × Interrupts)
  | [] => .ok start
  | access :: earlier => replay start earlier >>= perform access

/-- What was written to a register last. -/
def written? (register : Register) (history : History) : Option Int :=
  history.findSome? fun
    | .write other value => if other = register then some value else none
    | .read _ => none

/-- The accesses since the last transfer, or all of them if there was none. -/
def sinceTransfer (history : History) : History :=
  history.takeWhile fun access => !access.transfers

/-- What the next transfer sends. Without a write since the last transfer that are the ones that
were shifted in.
-/
def loaded (history : History) : Byte :=
  match history.sinceTransfer.written? .data with
  | some value => Byte.ofInt value
  | none => if history.any Access.transfers then 0xFF else 0

/-- The bytes of all transfers, the latest first. -/
def sent : History → List Byte
  | [] => []
  | access :: earlier => if access.transfers then loaded earlier :: sent earlier else sent earlier

/-- A transfer has been asked for last, and on a clock that nobody drives. -/
def waits (history : History) : Bool :=
  (history.written? .control).any fun value => Bits.bit 7 value && !Bits.bit 0 value

/-- What a history leaves of a link that was reset before it, and of the processor's requests. -/
def left (serial : Serial) (interrupts : Interrupts) (history : History) : Serial × Interrupts :=
  ({ sb := history.loaded
     transfer := history.waits
     internalClock := (history.written? .control).any (Bits.bit 0)
     sent := history.sent
     listening := serial.listening
     heard := (if serial.listening then history.sent else []) ++ serial.heard },
    (Interrupts.request .serial)^[history.sent.length] interrupts)

end History

-----------------------------------------------------------------------------------------
-- Accesses
-----------------------------------------------------------------------------------------

/-- A register is found at its address. -/
theorem read_address (serial : Serial) (register : Register)
    : serial.read register.address = .ok (serial.get register) := by
  cases register <;> rfl

theorem perform_read (register : Register) (state : Serial × Interrupts)
    : perform (.read register) state = .ok state := by
  rw [perform, read_address]
  rfl

theorem perform_write (register : Register) (value : Int) (state : Serial × Interrupts)
    : perform (.write register value) state
      = .ok (state.1.set register (Byte.ofInt value) state.2) := by
  cases register <;> rfl

namespace History

variable {earlier : History} {access : Access}

/-- A transfer shifts ones in. -/
theorem loaded_of_transfers (starts : access.transfers = true)
    : loaded (access :: earlier) = 0xFF := by
  have since : sinceTransfer (access :: earlier) = [] :=
    List.takeWhile_cons_of_neg (by rw [starts]; decide)
  rw [loaded, since, List.any_cons, starts]
  rfl

theorem loaded_of_control {value : Int} (rests : (Access.write .control value).transfers = false)
    : loaded (.write .control value :: earlier) = earlier.loaded := by
  have since : sinceTransfer (.write .control value :: earlier)
      = .write .control value :: earlier.sinceTransfer :=
    List.takeWhile_cons_of_pos (by rw [rests]; rfl)
  rw [loaded, since, List.any_cons, rests]
  rfl

theorem waits_control (earlier : History) (value : Int)
    : waits (.write .control value :: earlier) = (Bits.bit 7 value && !Bits.bit 0 value) :=
  rfl

/-- A write to the control register sends what is loaded, or changes its two bits and no more. -/
theorem left_control (serial : Serial) (interrupts : Interrupts) (earlier : History) (value : Int)
    : left serial interrupts (.write .control value :: earlier)
      = set .control (Byte.ofInt value) (earlier.left serial interrupts).1
          (earlier.left serial interrupts).2 := by
  obtain ⟨sb, transfer, clock, sent, listening, heard⟩ := serial
  cases starts : (Access.write .control value).transfers with
  | true =>
      have asked : (Bits.bit 7 value && Bits.bit 0 value) = true := starts
      obtain ⟨start, own⟩ := Bool.and_eq_true_iff.mp asked
      have sends : History.sent (.write .control value :: earlier)
          = earlier.loaded :: earlier.sent :=
        if_pos starts
      rw [left, loaded_of_transfers starts, sends, waits_control, start, own, set,
        Byte.getLsbD_ofInt (by decide), Byte.getLsbD_ofInt (by decide), if_pos asked,
        List.length_cons, Function.iterate_succ_apply']
      cases listening <;> rfl
  | false =>
      have asked : (Bits.bit 7 value && Bits.bit 0 value) = false := starts
      have kept : (Bits.bit 7 value && !Bits.bit 0 value) = Bits.bit 7 value := by
        revert asked
        cases Bits.bit 7 value <;> simp
      have silent : History.sent (.write .control value :: earlier) = earlier.sent := by
        rw [History.sent, starts]
        rfl
      rw [left, loaded_of_control starts, silent, waits_control, kept, set,
        Byte.getLsbD_ofInt (by decide), Byte.getLsbD_ofInt (by decide), asked]
      rfl

/-- What one access makes of a history, it makes of what the history leaves. -/
theorem perform_left (serial : Serial) (interrupts : Interrupts) (earlier : History)
    (access : Access)
    : perform access (earlier.left serial interrupts)
      = .ok (left serial interrupts (access :: earlier)) := by
  cases access with
  | read register => exact perform_read register _
  | write register value =>
      rw [perform_write]
      cases register with
      | data => rfl
      | control => rw [left_control]

theorem replay_eq (serial : Serial) (interrupts : Interrupts) (history : History)
    : history.replay (serial.reset, interrupts) = .ok (history.left serial interrupts) := by
  induction history with
  | nil =>
      have nothing : (if serial.listening then sent [] else []) = [] := ite_self []
      rw [left, nothing]
      rfl
  | cons access earlier ih =>
      rw [replay, ih]
      exact perform_left serial interrupts earlier access

-----------------------------------------------------------------------------------------
-- What can be told
-----------------------------------------------------------------------------------------

theorem length_sent (history : History)
    : history.sent.length = history.countP Access.transfers := by
  induction history with
  | nil => rfl
  | cons access earlier ih =>
      rw [sent, List.countP_cons]
      split
      · rw [List.length_cons, ih]
      · exact ih

/-- What has become of a link and the processor by a history. -/
structure Told (history : History) (before after : Serial × Interrupts) : Prop where
  output : after.1.output = history.sent.reverse
  length : after.1.output.length = history.countP Access.transfers
  /-- Nobody has heard anything but what was sent. -/
  heard
    : after.1.heard.reverse
      = before.1.heard.reverse ++ if before.1.listening then history.sent.reverse else []
  data : after.1.read Register.data.address = .ok history.loaded
  /-- Behind a transfer the data register shows ones. -/
  shifted
    : ∀ access earlier, history = access :: earlier → access.transfers = true →
        after.1.read Register.data.address = .ok 0xFF
  /-- A transfer is shown as pending just if nobody drives its clock. -/
  control
    : ∃ shown, after.1.read Register.control.address = .ok shown
        ∧ (shown.getLsbD 7 = true
          ↔ ∃ value, history.written? .control = some value
            ∧ Bits.bit 7 value = true ∧ Bits.bit 0 value = false)
  /-- The processor is called once for each transfer, and nothing else becomes of its requests. -/
  interrupts
    : after.2 = (Interrupts.request .serial)^[history.countP Access.transfers] before.2
  counts
    : ∀ source, after.2.counts.get source
        = before.2.counts.get source
          + if source = .serial then (history.countP Access.transfers : Int) else 0

theorem getLsbD_get_control (serial : Serial)
    : (serial.get .control).getLsbD 7 = serial.transfer := by
  have search : ∀ transfer clock : Bool,
      (0x7E#8 ||| BitVec.ofNat 8 (128 * transfer.toNat + clock.toNat)).getLsbD 7 = transfer := by
    decide
  exact search serial.transfer serial.internalClock

theorem waits_iff {history : History}
    : history.waits = true
        ↔ ∃ value, history.written? .control = some value
          ∧ Bits.bit 7 value = true ∧ Bits.bit 0 value = false := by
  simp [waits, Option.any_eq_true]

theorem told_left (serial : Serial) (interrupts : Interrupts) (history : History)
    : Told history (serial.reset, interrupts) (history.left serial interrupts) where
  output := rfl
  length := (List.length_reverse ..).trans (length_sent history)
  heard := by
    have heard : (history.left serial interrupts).1.heard
        = (if serial.listening then history.sent else []) ++ serial.heard := rfl
    rw [heard, List.reverse_append, apply_ite List.reverse]
    rfl
  data := read_address _ .data
  shifted := by
    rintro access earlier rfl starts
    rw [read_address, ← loaded_of_transfers starts]
    rfl
  control := ⟨_, read_address _ .control, by rw [getLsbD_get_control]; exact waits_iff⟩
  interrupts := by
    rw [← length_sent]
    rfl
  counts := fun source => by
    rw [← length_sent]
    exact interrupts.iterate_request_counts .serial source _

/-- All that a link does since a reset can be told from the writes to it: a byte goes out for every
write that asks for a transfer on the own clock, and for no other.
-/
theorem exists_told (serial : Serial) (interrupts : Interrupts) (history : History)
    : ∃ after,
        history.replay (serial.reset, interrupts) = .ok after
          ∧ history.Told (serial.reset, interrupts) after :=
  ⟨_, replay_eq serial interrupts history, told_left serial interrupts history⟩

/-- What is sent twice is sent as ones the second time, and a transfer on another clock sends
nothing.
-/
example
    : let history : History :=
        [.write .control 0x80, .write .data 0x42, .write .control 0x1FF, .write .control 0x81,
          .read .data, .write .data 0x141, .write .control 0x81]
      history.sent.reverse = [0x00, 0x41, 0xFF] ∧ history.loaded = 0x42 ∧ history.waits = true := by
  decide

end History

end Handheld.Serial
