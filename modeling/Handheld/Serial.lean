import Handheld.Attempt

/-!
The serial link without a partner: a transfer on the internal clock is complete at once, and what
was sent is kept.
-/

namespace Handheld

/-- The state of the serial link. -/
structure Serial where
  /-- The data register. -/
  sb : Byte := 0
  /-- Bit 7 of the control register: a transfer has been asked for. -/
  transfer : Bool := false
  /-- Bit 0 of the control register: this side drives the clock. -/
  internalClock : Bool := false
  /-- The bytes sent, the latest first. -/
  sent : List Byte := []
  /-- Whether a listener hears every byte as it is sent. -/
  listening : Bool := false
  /-- What the listener has heard, the latest first. -/
  heard : List Byte := []
  deriving DecidableEq, Repr

namespace Serial

/-- The registers of the serial link. -/
inductive Register
  | data
  | control
  deriving DecidableEq, Repr

/-- The register at an address. -/
def register? (address : Int) : Option Register :=
  match address with
  | 0xFF01 => some .data
  | 0xFF02 => some .control
  | _ => none

/-- The link after a reset. The listener keeps listening. -/
def reset (serial : Serial) : Serial :=
  { listening := serial.listening, heard := serial.heard }

/-- The control register without the bits that always read as one. -/
def sc (serial : Serial) : Byte :=
  BitVec.ofNat 8 (128 * serial.transfer.toNat + serial.internalClock.toNat)

/-- The bytes sent, in the order of sending. -/
def output (serial : Serial) : List Byte :=
  serial.sent.reverse

/-- Bytes as characters of the same code. -/
def textOf (bytes : List Byte) : String :=
  String.ofList (bytes.map fun byte => Char.ofNat byte.toNat)

/-- The bytes sent, as text. -/
def outputText (serial : Serial) : String :=
  textOf serial.output

/-- What the listener has heard, as text. -/
def heardText (serial : Serial) : String :=
  textOf serial.heard.reverse

/-- Sends the data register. Ones are shifted in, since nobody answers. -/
def complete (serial : Serial) (interrupts : Interrupts) : Serial × Interrupts :=
  ({ serial with
      sb := 0xFF
      transfer := false
      sent := serial.sb :: serial.sent
      heard := if serial.listening then serial.sb :: serial.heard else serial.heard },
    interrupts.request .serial)

/-- What the bus reads from a register. -/
def get (serial : Serial) : Register → Byte
  | .data => serial.sb
  | .control => 0x7E#8 ||| serial.sc

/-- A write of a byte to a register. -/
def set (register : Register) (value : Byte) (serial : Serial) (interrupts : Interrupts)
    : Serial × Interrupts :=
  match register with
  | .data => ({ serial with sb := value }, interrupts)
  | .control =>
    let transfer := value.getLsbD 7
    let internalClock := value.getLsbD 0
    let serial := { serial with transfer, internalClock }
    if transfer && internalClock then serial.complete interrupts else (serial, interrupts)

/-- Reads the register at an address. -/
def read (serial : Serial) (address : Int) : Except Error Byte :=
  match register? address with
  | some register => .ok (serial.get register)
  | none => .error (.notSerialRegister address)

/-- Writes the register at an address. -/
def write (address value : Int) (serial : Serial) (interrupts : Interrupts)
    : Except Error (Serial × Interrupts) :=
  match register? address with
  | some register => .ok (serial.set register (Byte.ofInt value) interrupts)
  | none => .error (.notSerialRegister address)

/-- Replaces the registers and the bytes sent. -/
def restore (sb sc : Int) (output : List Byte) (serial : Serial) : Serial :=
  { serial with
    sb := Byte.ofInt sb
    transfer := Bits.bit 7 sc
    internalClock := Bits.bit 0 sc
    sent := output.reverse }

end Serial

end Handheld
