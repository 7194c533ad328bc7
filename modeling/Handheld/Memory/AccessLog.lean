import Handheld.Attempt
import Handheld.Memory.Region

/-!
Logs of the latest reads and writes.
-/

namespace Handheld.Memory

/-- One access to memory. -/
structure Access where
  address : Address
  value : Byte
  deriving DecidableEq, Repr

/-- The region that an access went to. -/
def Access.region (access : Access) : String :=
  regionName access.address

/-- The latest entries of a sequence, oldest first. -/
structure Ring (α : Type) where
  /-- How many entries are kept; without a limit, all of them. -/
  limit : Option Nat
  entries : List α := []
  deriving DecidableEq, Repr

namespace Ring

variable {α : Type}

/-- The last entries of a list, as many as the limit allows. -/
def keep (limit : Option Nat) (entries : List α) : List α :=
  match limit with
  | none => entries
  | some limit => entries.drop (entries.length - limit)

/-- Adds an entry, dropping the oldest one beyond the limit. -/
def push (ring : Ring α) (entry : α) : Ring α :=
  { ring with entries := keep ring.limit (ring.entries ++ [entry]) }

/-- Sets another limit and keeps the latest entries. -/
def withLimit (ring : Ring α) (limit : Option Nat) : Ring α :=
  { limit, entries := keep limit ring.entries }

/-- Drops all entries. -/
def clear (ring : Ring α) : Ring α :=
  { ring with entries := [] }

end Ring

/-- The logs of reads and writes, kept apart. -/
structure AccessLog where
  enabled : Bool
  reads : Ring Access
  writes : Ring Access
  deriving DecidableEq, Repr

namespace AccessLog

/-- The usual number of entries. -/
abbrev usualLimit : Int := 256

/-- A length that a log can have. -/
def checkLimit (limit : Int) : Except LogRefusal Nat :=
  if limit < -0x8000000000000000 ∨ 0x8000000000000000 ≤ limit then .error .outOfRange
  else if limit < 0 then .error .negative
  else .ok limit.toNat

/-- New logs. A limit of zero switches them off. -/
def ofLimit (limit : Int) : Except LogRefusal AccessLog := do
  let size ← checkLimit (max limit 1)
  return { enabled := limit > 0, reads := { limit := size }, writes := { limit := size } }

/-- Switches the logs on and only then looks at the new limit. -/
def enable (limit : Option Int) : Attempt AccessLog Unit := do
  modify fun log => { log with enabled := true }
  let size ←
    match limit.mapM checkLimit with
    | .ok size => pure size
    | .error refusal => throw (.log refusal)
  modify fun log =>
    { log with reads := log.reads.withLimit size, writes := log.writes.withLimit size }

/-- New logs of a length that a host gives. A fraction below one stands for the least length. -/
def ofJson (limit : Json) : Except Error AccessLog := do
  match ← limit.toNumber.mapError .misfit with
  | .int limit => (ofLimit limit).mapError .log
  | .float limit =>
    if limit < 1 then
      let log ← (ofLimit 0).mapError .log
      return { log with enabled := 0 < limit }
    else throw (.misfit .wrongSort)

/-- Switches the logs on with a limit that a host gives. Nothing is no limit. -/
def enableBy (limit : Json) : Attempt AccessLog Unit := do
  modify fun log => { log with enabled := true }
  match limit with
  | .null => enable none
  | limit => enable (some (← Attempt.expect limit.toOperand))

/-- Switches the logs off. Their entries stay. -/
def disable (log : AccessLog) : AccessLog :=
  { log with enabled := false }

/-- Drops all entries. -/
def clear (log : AccessLog) : AccessLog :=
  { log with reads := log.reads.clear, writes := log.writes.clear }

/-- Notes a read, if the logs are on. -/
def noteRead (log : AccessLog) (address : Address) (value : Byte) : AccessLog :=
  if log.enabled then { log with reads := log.reads.push { address, value } } else log

/-- Notes a write, if the logs are on. -/
def noteWrite (log : AccessLog) (address : Address) (value : Byte) : AccessLog :=
  if log.enabled then { log with writes := log.writes.push { address, value } } else log

end AccessLog

end Handheld.Memory
