import Handheld.Cpu.Listing
import Handheld.Cpu.Execution
import Handheld.Cpu.Snapshot

/-!
A single step from a snapshot over a sparse memory image, with everything the step changed.
-/

namespace Handheld.Cpu

/-- A sparse memory: values at some addresses, in increasing order, and a default elsewhere. -/
structure Image where
  cells : List (Int × Int) := []
  default : Int := 0
  deriving DecidableEq, Repr

namespace Image

/-- The value that an image lists for an address. -/
def find? (image : Image) (address : Int) : Option Int :=
  image.cells.lookup address

/-- Inserts a value into cells in increasing order of address. -/
def insert (address value : Int) : List (Int × Int) → List (Int × Int)
  | [] => [(address, value)]
  | (a, v) :: rest =>
    if address < a then (address, value) :: (a, v) :: rest
    else if address = a then (address, value) :: rest
    else (a, v) :: insert address value rest

/-- Replaces the value at an address. -/
def set (image : Image) (address value : Int) : Image :=
  { image with cells := insert address value image.cells }

/-- An image from address and value pairs; of two values for one address the later counts. -/
def ofList (default : Int) (cells : List (Int × Int)) : Image :=
  cells.foldl (fun image (address, value) => image.set address value)
    { default := default % 256 }

/-- What the bus reads at an address. -/
def get (image : Image) (address : Int) : Int :=
  (image.find? (address % 65536)).getD image.default

end Image

/-- A write with the value that the cell held before. -/
structure MemoryWrite where
  address : Int
  value : Int
  previous : Int
  deriving DecidableEq, Repr

/-- A sparse memory, the cells read so far and the writes made to it, the latest first. -/
structure Sparse where
  image : Image
  reads : List Int := []
  writes : List MemoryWrite := []
  deriving DecidableEq, Repr

/-- A sparse memory as a bus. Reads answer what the image holds, writes keep the low byte. -/
def Sparse.bus : Bus Sparse where
  read address interrupts memory :=
    (memory.image.get address, interrupts,
      { memory with reads := address % 65536 :: memory.reads })
  write address value interrupts memory :=
    let cell := address % 65536
    let byte := value % 256
    let write := { address := cell, value := byte, previous := memory.image.get cell }
    (interrupts,
      { memory with image := memory.image.set cell byte, writes := write :: memory.writes })

/-- The result of a trial step. -/
structure Trial where
  registers : Snapshot
  changed : List (Change Int)
  writes : List MemoryWrite
  image : Image
  cycles : Nat
  /-- The mnemonic, if an instruction was executed. -/
  name : Option String
  /-- The length of the instruction, or zero. -/
  length : Nat
  serviced : Option Source
  /-- The request bits after the step. -/
  requests : Int
  deriving DecidableEq, Repr

/-- A processor as a snapshot describes it, over an image. -/
def Snapshot.core (start : Snapshot) (image : Image) (enable requests : Int) : Core Sparse :=
  let interrupts := (({} : Interrupts).writeEnable enable).writeRequests requests
  start.applyTo { cpu := Cpu.powerOn, interrupts, memory := { image } }

/-- What a step has led to that started from a snapshot and took some cycles. -/
def Trial.ofCore (start : Snapshot) (cycles : Nat) (core : Core Sparse) : Trial :=
  let registers := Snapshot.ofCore core
  { registers
    changed := start.diff registers
    writes := core.memory.writes.reverse
    image := core.memory.image
    cycles
    name := core.cpu.lastInstruction.map Instruction.mnemonic
    length := (core.cpu.lastInstruction.map Instruction.length).getD 0
    serviced := core.cpu.lastInterrupt
    requests := core.interrupts.requests.toNat }

/-- Performs one step from a snapshot over an image. -/
def Trial.run (start : Snapshot) (image : Image) (enable requests : Int) : Except Fault Trial :=
  let (outcome, core) := (Core.step Sparse.bus).run (start.core image enable requests)
  outcome.map fun cycles => Trial.ofCore start cycles core

/-- Whether neither an instruction was executed nor an interrupt served. -/
def Trial.idle (trial : Trial) : Bool :=
  trial.name.isNone && trial.serviced.isNone

end Handheld.Cpu
