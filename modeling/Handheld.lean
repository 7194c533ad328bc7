import Handheld.Cartridge.Blueprint
import Handheld.Cartridge.Pins
import Handheld.Console.Load
import Handheld.Console.Step
import Handheld.Cpu.Bench
import Handheld.Cpu.Panel
import Handheld.Cpu.Sweep
import Handheld.Decimal.Division
import Handheld.Desk
import Handheld.Digest
import Handheld.Interrupt.Saved
import Handheld.Json.Edit
import Handheld.Pane
import Handheld.Proofs.Cartridge.Acceptance
import Handheld.Proofs.Cartridge.Checksum
import Handheld.Proofs.Cartridge.Reach
import Handheld.Proofs.Console.Confined
import Handheld.Proofs.Console.Coverage
import Handheld.Proofs.Console.Fault
import Handheld.Proofs.Console.Fresh
import Handheld.Proofs.Console.Genuine
import Handheld.Proofs.Console.Ledger
import Handheld.Proofs.Console.Lockstep
import Handheld.Proofs.Console.Requests
import Handheld.Proofs.Console.Restoring
import Handheld.Proofs.Console.Telling
import Handheld.Proofs.Console.Timeline
import Handheld.Proofs.Console.Waking
import Handheld.Proofs.Cpu.Draining
import Handheld.Proofs.Cpu.Enabling
import Handheld.Proofs.Cpu.Exclusion
import Handheld.Proofs.Cpu.LongDecimal
import Handheld.Proofs.Cpu.LongShift
import Handheld.Proofs.Cpu.Monitoring
import Handheld.Proofs.Cpu.Packing
import Handheld.Proofs.Cpu.Rereading
import Handheld.Proofs.Memory.Logging
import Handheld.Proofs.Peripherals.Matrix
import Handheld.Proofs.Peripherals.Transfers
import Handheld.Proofs.Peripherals.Windows
import Handheld.Proofs.Reference.Step
import Handheld.Proofs.Settings.RoundTrip
import Handheld.Proofs.Timer.Phase
import Handheld.Proofs.Trace.Delivery
import Handheld.Proofs.Trace.Discipline
import Handheld.Proofs.Trace.Restarting
import Handheld.Report.Console
import Handheld.Scenario
import Handheld.Session
import Handheld.SetClock
import Handheld.Trace.Hub
