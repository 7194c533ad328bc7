import Handheld.Attempt

/-!
The saved form of the interrupt controller.
-/

namespace Handheld

/-- The totals under the names of their sources. -/
def Tally.saved (tally : Tally) : Json :=
  .object (Source.all.map fun source => (source.name, .int (tally.get source)))

namespace Interrupts

/-- The controller as a saved state holds it. -/
def saved (interrupts : Interrupts) : Json :=
  .object [
    ("ie", .int interrupts.readEnable),
    ("if", .int interrupts.requests.toNat),
    ("ime", .bool interrupts.master),
    ("request_counts", interrupts.counts.saved)]

/-- Reads the total of one source. -/
private def restoreCount (totals : Json) (source : Source) : Attempt Interrupts Unit := do
  let total ← Attempt.expect (totals.intMember source.name 0)
  modify fun interrupts => { interrupts with counts := interrupts.counts.set source total }

/-- Takes over a saved state, field by field. A missing field counts as zero or off, and so does
a table of totals that is empty or switched off. -/
def restore (state : Json) : Attempt Interrupts Unit := do
  let enable ← Attempt.expect (state.intMember "ie" 0)
  modify (·.writeEnable enable)
  let requests ← Attempt.expect (state.intMember "if" 0)
  modify (·.writeRequests requests)
  let master ← Attempt.expect (state.switchMember "ime" false)
  modify (·.setMaster master)
  let totals ← Attempt.expect (state.member "request_counts" .null)
  let totals := if totals.isOn then totals else .object []
  Source.all.forM (restoreCount totals)

end Interrupts

end Handheld
