import Handheld.Proofs.Memory.Storage
import Mathlib.Data.List.DropRight

/-! What the logs of a memory tell.
They can be told from everything that the memory was asked for since it was built, however often
their length was changed meanwhile. An entry's region names the place that the access was handed to.
-/

namespace Handheld.Memory

-----------------------------------------------------------------------------------------
-- Commands and what the logs should tell of them
-----------------------------------------------------------------------------------------

/-- Reads and writes are counted and logged apart. -/
inductive Direction
  | read
  | write
  deriving DecidableEq, Repr

/-- The log of the accesses in one direction. -/
def AccessLog.toward (log : AccessLog) : Direction → Ring Access
  | .read => log.reads
  | .write => log.writes

/-- The counter of the accesses in one direction. -/
def counter (m : Memory) : Direction → Int
  | .read => m.readCount
  | .write => m.writeCount

/-- What can be asked of a memory. -/
inductive Command
  | read (address : Int)
  | write (address value : Int)
  | readWord (address : Int)
  | writeWord (address value : Int)
  | peek (address : Int)
  | logOn (limit : Nat)
  | logOff
  | logClear
  | reset
  deriving DecidableEq, Repr

/-- What a memory comes to by a command. -/
def Command.carryOut (command : Command) (s : Interrupts × Memory) : Interrupts × Memory :=
  let (interrupts, m) := s
  match command with
  | .read address => (interrupts, (m.read address interrupts).2)
  | .write address value => m.write address value interrupts
  | .readWord address => (interrupts, (m.readWord address interrupts).2)
  | .writeWord address value => m.writeWord address value interrupts
  | .peek _ => s
  | .logOn limit =>
    (interrupts, { m with log := ((AccessLog.enable (some limit)).perform m.log).2 })
  | .logOff => (interrupts, { m with log := m.log.disable })
  | .logClear => (interrupts, { m with log := m.log.clear })
  | .reset => (interrupts, m.reset)

/-- What a log can notice. -/
inductive Event
  | access (direction : Direction) (entry : Access)
  | logOn (limit : Nat)
  | logOff
  | logClear
  | reset
  deriving DecidableEq, Repr

/-- What has happened to a memory since it was built, the latest event first. -/
abbrev History := List Event

/-- What happens by a command, the latest event first. A word is two accesses, and the bytes read
are those that the caller has got.
-/
def Command.events (command : Command) (s : Interrupts × Memory) : History :=
  let (interrupts, m) := s
  match command with
  | .read address =>
    [.access .read ⟨Address.ofInt address, (m.read address interrupts).1⟩]
  | .write address value =>
    [.access .write ⟨Address.ofInt address, Byte.ofInt value⟩]
  | .readWord address =>
    let word := (m.readWord address interrupts).1
    [.access .read ⟨Address.ofInt (address + 1), Byte.ofInt (word / 256)⟩,
      .access .read ⟨Address.ofInt address, Byte.ofInt word⟩]
  | .writeWord address value =>
    [.access .write ⟨Address.ofInt (address + 1), Byte.ofInt (value / 256)⟩,
      .access .write ⟨Address.ofInt address, Byte.ofInt value⟩]
  | .peek _ => []
  | .logOn limit => [.logOn limit]
  | .logOff => [.logOff]
  | .logClear => [.logClear]
  | .reset => [.reset]

/-- Where commands lead, of which the latest comes first. -/
def replay (start : Interrupts × Memory) (commands : List Command) : Interrupts × Memory :=
  commands.foldr Command.carryOut start

/-- What happens by all of them. -/
def record (start : Interrupts × Memory) : List Command → History
  | [] => []
  | command :: earlier => command.events (replay start earlier) ++ record start earlier

namespace History

/-- The logs are on. A memory that is built with no room for entries has them off. -/
def isOn (room : Nat) : History → Bool
  | [] => 0 < room
  | .logOn _ :: _ => true
  | .logOff :: _ => false
  | _ :: earlier => isOn room earlier

/-- How many entries a log may have. A limit that no list can reach is refused. -/
def limit (room : Nat) : History → Nat
  | [] => max room 1
  | .logOn wanted :: earlier =>
    if wanted < 0x8000000000000000 then wanted else limit room earlier
  | _ :: earlier => limit room earlier

/-- An entry behind all others. The oldest one has to go if there are too many now. -/
def noted (limit : Nat) (entries : List Access) (entry : Access) : List Access :=
  if limit < (entries ++ [entry]).length then (entries ++ [entry]).tail else entries ++ [entry]

/-- The entries of a log, the oldest one first. -/
def kept (room : Nat) (direction : Direction) : History → List Access
  | [] => []
  | .access other entry :: earlier =>
    if other = direction ∧ isOn room earlier then
      noted (limit room earlier) (kept room direction earlier) entry
    else kept room direction earlier
  | .logOn wanted :: earlier =>
    (kept room direction earlier).rtake (limit room (.logOn wanted :: earlier))
  | .logOff :: earlier => kept room direction earlier
  | .logClear :: _ | .reset :: _ => []

/-- How many accesses there were since the last reset. -/
def count (direction : Direction) : History → Nat
  | [] => 0
  | .access other _ :: earlier => count direction earlier + if other = direction then 1 else 0
  | .reset :: _ => 0
  | _ :: earlier => count direction earlier

end History

/-- The names of the regions through which a place is reached. -/
def Place.regions : Place → List String
  | .rom _ => ["rom"]
  | .vram _ => ["vram"]
  | .cartridgeRam _ => ["cart_ram"]
  | .wram _ => ["wram", "echo"]
  | .oam _ => ["oam"]
  | .deadArea => ["unusable"]
  | .joypad | .serial _ | .timer _ | .interruptRequests | .audio _ | .video _ | .vacant => ["io"]
  | .hram _ => ["hram"]
  | .interruptEnable => ["ie"]

/-- The names of the regions in which an owner is asked. -/
def Owner.regions : Owner → List String
  | .cartridge => ["rom", "cart_ram"]
  | .vram => ["vram"]
  | .wram start => if start = 0xE000 then ["echo"] else ["wram"]
  | .oam => ["oam"]
  | .deadArea => ["unusable"]
  | .joypad | .serial | .timer | .requests | .audio | .video | .nobody => ["io"]
  | .hram => ["hram"]
  | .enable => ["ie"]

/-- An access is handed to the owner of the place at its address, who does not refuse it, and its
region names both of them.
-/
structure Served (s : Interrupts × Memory) (entry : Access) : Prop where
  owner : entry.region ∈ (s.2.owner entry.address.val).regions
  place : entry.region ∈ (place entry.address).regions
  owns : Owns entry.address.val (s.2.owner entry.address.val) (Memory.place entry.address)
  answered : s.2.read? entry.address.val s.1 = some (s.2.read entry.address.val s.1)
  accepted
    : s.2.write? entry.address.val entry.value.value s.1
      = some (s.2.write entry.address.val entry.value.value s.1)

theorem devicePlace_regions (address : Nat) : "io" ∈ (devicePlace address).regions := by
  rw [devicePlace]
  split
  · simp [Place.regions]
  · simp [Place.regions]
  · repeat' split
    all_goals simp [Place.regions]

theorem deviceOwner_regions (m : Memory) (address : Int)
    : "io" ∈ (m.deviceOwner address).regions := by
  rw [deviceOwner]
  repeat' split
  all_goals simp [Owner.regions]

theorem dite_mem_regions {p : Prop} [Decidable p] {name other : String} {inner : p → Place}
    {outer : ¬p → Place} (inside : ∀ within, name ∈ (inner within).regions)
    (outside : ∀ beyond, other ∈ (outer beyond).regions)
    : (if p then name else other)
      ∈ (if within : p then inner within else outer within).regions := by
  by_cases within : p
  · rw [if_pos within, dif_pos within]
    exact inside within
  · rw [if_neg within, dif_neg within]
    exact outside within

/-- The region around an address is one through which its place is reached. -/
theorem regionName_mem_place (address : Address)
    : regionName address ∈ (place address).regions := by
  rw [regionName, place]
  -- Both sides ask for the same ranges, but work memory is reached from two of them.
  iterate 6 refine dite_mem_regions (fun _ => by simp [Place.regions]) fun _ => ?_
  repeat' split
  all_goals first
    | exact devicePlace_regions _
    | simp [Place.regions]

theorem ite_mem_regions {p q : Prop} [Decidable p] [Decidable q] {name other : String}
    {owner another : Owner} (same : q ↔ p) (inside : name ∈ owner.regions)
    (outside : other ∈ another.regions)
    : (if p then name else other) ∈ (if q then owner else another).regions := by
  by_cases within : p
  · rw [if_pos within, if_pos (same.mpr within)]
    exact inside
  · rw [if_neg within, if_neg (mt same.mp within)]
    exact outside

/-- The region around an address is one in which its owner is asked. -/
theorem regionName_mem_owner (m : Memory) (address : Address)
    : regionName address ∈ (m.owner address.val).regions := by
  rw [regionName, owner]
  -- The names and the owners are handed out by the same ladder.
  iterate 7 refine ite_mem_regions (by omega) (by simp [Owner.regions]) ?_
  refine ite_mem_regions (by omega) (deviceOwner_regions m _) ?_
  exact ite_mem_regions (by omega) (by simp [Owner.regions]) (by simp [Owner.regions])

theorem served {s : Interrupts × Memory} (standard : s.2.build.Standard) (entry : Access)
    : Served s entry where
  owner := regionName_mem_owner s.2 entry.address
  place := regionName_mem_place entry.address
  owns := owns standard entry.address
  answered := read?_eq standard entry.address.val s.1
  accepted := write?_eq standard entry.address.val entry.value.value s.1

-----------------------------------------------------------------------------------------
-- Logs of a limited length
-----------------------------------------------------------------------------------------

namespace History

theorem length_noted_le {limit : Nat} {entries : List Access} (fits : entries.length ≤ limit)
    (entry : Access)
    : (noted limit entries entry).length ≤ limit := by
  rw [noted]
  split
  · simpa using fits
  · omega

theorem length_rtake_le {α : Type} (entries : List α) (limit : Nat)
    : (entries.rtake limit).length ≤ limit := by
  rw [List.rtake, List.length_drop]
  omega

/-- A log never has more entries than it may have. -/
theorem length_kept_le (room : Nat) (direction : Direction) (history : History)
    : (kept room direction history).length ≤ limit room history := by
  induction history with
  | nil => exact Nat.zero_le _
  | cons event earlier ih =>
      cases event with
      | access other entry =>
          rw [kept]
          split
          · exact length_noted_le ih entry
          · exact ih
      | logOn limit => exact length_rtake_le _ _
      | logOff => exact ih
      | logClear | reset => exact Nat.zero_le _

end History

namespace AccessLog

/-- A limit is accepted if lists can be so long. -/
theorem checkLimit_natCast (limit : Nat)
    : checkLimit limit
      = if limit < 0x8000000000000000 then .ok limit else .error .outOfRange := by
  rw [checkLimit]
  split
  · rw [if_neg (by omega)]
  · rw [if_neg (by omega), if_pos (by omega), Int.toNat_natCast]

/-- Logs are switched on even if the limit is refused. -/
theorem enable_natCast (limit : Nat) (log : AccessLog)
    : ((enable (some limit)).perform log).2
      = if limit < 0x8000000000000000 then
          { enabled := true
            reads := log.reads.withLimit (some limit)
            writes := log.writes.withLimit (some limit) }
        else { log with enabled := true } := by
  have checked : (some (limit : Int)).mapM checkLimit = some <$> checkLimit limit := rfl
  rw [enable, checked, checkLimit_natCast]
  by_cases small : limit < 0x8000000000000000
  · rw [if_pos small, if_pos small]
    rfl
  · rw [if_neg small, if_neg small]
    rfl

/-- Notes an access, if the logs are on. -/
def note (direction : Direction) (entry : Access) (log : AccessLog) : AccessLog :=
  match direction with
  | .read => log.noteRead entry.address entry.value
  | .write => log.noteWrite entry.address entry.value

/-- Noting an access leaves the switch alone. -/
theorem note_enabled (direction : Direction) (entry : Access) (log : AccessLog)
    : (log.note direction entry).enabled = log.enabled := by
  cases direction <;> simp only [note, noteRead, noteWrite] <;> split <;> rfl

/-- Noting an access in one direction leaves the other log alone. -/
theorem note_toward (direction other : Direction) (entry : Access) (log : AccessLog)
    : (log.note direction entry).toward other
      = if direction = other ∧ log.enabled then (log.toward other).push entry
        else log.toward other := by
  cases direction <;> cases other <;> cases on : log.enabled <;>
    simp [note, noteRead, noteWrite, toward, on]

end AccessLog

/-- An entry is added behind all others, and the oldest one has to go if there is no room. -/
theorem keep_append {limit : Nat} {entries : List Access} (fits : entries.length ≤ limit)
    (entry : Access)
    : Ring.keep (some limit) (entries ++ [entry]) = History.noted limit entries entry := by
  rw [Ring.keep, History.noted]
  split
  case isTrue full =>
      have one : (entries ++ [entry]).length - limit = 1 := by simp at full ⊢; omega
      rw [one, List.drop_one]
  case isFalse room =>
      have none_ : (entries ++ [entry]).length - limit = 0 := by omega
      rw [none_, List.drop_zero]

-----------------------------------------------------------------------------------------
-- Commands keep the logs in line with the history
-----------------------------------------------------------------------------------------

/-- The logs and counters that a history tells of. -/
structure Keeps (room : Nat) (history : History) (m : Memory) : Prop where
  enabled : m.log.enabled = History.isOn room history
  rings (direction : Direction)
    : m.log.toward direction
      = ⟨some (History.limit room history), History.kept room direction history⟩
  counts (direction : Direction) : m.counter direction = History.count direction history

namespace Keeps

variable {room : Nat} {history : History} {m n : Memory}

/-- An access is counted and, with the logs on, logged. -/
theorem access (keeps : Keeps room history m) {direction : Direction} {entry : Access}
    (log : n.log = m.log.note direction entry)
    (counter
      : ∀ other, n.counter other = m.counter other + if direction = other then 1 else 0)
    : Keeps room (.access direction entry :: history) n where
  enabled := by
    rw [log, AccessLog.note_enabled]
    exact keeps.enabled
  rings other := by
    have unchanged
        : History.limit room (.access direction entry :: history) = History.limit room history :=
      rfl
    rw [log, AccessLog.note_toward, keeps.enabled, keeps.rings, unchanged, History.kept]
    split
    · rw [Ring.push, keep_append (History.length_kept_le room other history)]
    · rfl
  counts other := by
    rw [counter, keeps.counts, History.count]
    split <;> simp

theorem read (keeps : Keeps room history m) (address : Int) (interrupts : Interrupts)
    : Keeps room
        (.access .read ⟨Address.ofInt address, (m.read address interrupts).1⟩ :: history)
        (m.read address interrupts).2 := by
  refine keeps.access rfl fun other => ?_
  cases other
  · rfl
  · exact (Int.add_zero _).symm

/-- No place has the logs and counters in it. -/
theorem set (keeps : Keeps room history m) (place : Place) (value : Byte)
    (interrupts : Interrupts)
    : Keeps room history (m.set place value interrupts).2 := by
  cases place <;> exact ⟨keeps.enabled, keeps.rings, keeps.counts⟩

theorem write (keeps : Keeps room history m) (address value : Int) (interrupts : Interrupts)
    : Keeps room (.access .write ⟨Address.ofInt address, Byte.ofInt value⟩ :: history)
        (m.write address value interrupts).2 := by
  rw [Memory.write]
  refine set (keeps.access rfl fun other => ?_) _ _ _
  cases other
  · exact (Int.add_zero _).symm
  · rfl

/-- A word that is read tells of both of its bytes. -/
theorem readWord (keeps : Keeps room history m) (address : Int) (interrupts : Interrupts)
    : Keeps room ((Command.readWord address).events (interrupts, m) ++ history)
        (m.readWord address interrupts).2 := by
  let low := (m.read address interrupts).1
  let between := (m.read address interrupts).2
  let high := (between.read (address + 1) interrupts).1
  have word : (m.readWord address interrupts).1 = high.value * 256 + low.value := rfl
  have bounds := low.isLt
  have value : low.value = (low.toNat : Int) := rfl
  have first : Byte.ofInt (high.value * 256 + low.value) = low := by
    refine Byte.value_injective ?_
    rw [Byte.value, ← Byte.toNat_ofInt]
    omega
  have second : Byte.ofInt ((high.value * 256 + low.value) / 256) = high := by
    have quotient : (high.value * 256 + low.value) / 256 = high.value := by omega
    rw [quotient, Byte.ofInt_value]
  have both := (keeps.read address interrupts).read (address + 1) interrupts
  simp only [Command.events, word, first, second]
  exact both

/-- Another limit switches the logs on and cuts both of them, unless no list can reach it. -/
theorem logOn (keeps : Keeps room history m) (limit : Nat)
    : Keeps room (.logOn limit :: history)
        { m with log := ((AccessLog.enable (some limit)).perform m.log).2 } := by
  rw [AccessLog.enable_natCast]
  by_cases small : limit < 0x8000000000000000
  · have wanted : History.limit room (.logOn limit :: history) = limit := if_pos small
    rw [if_pos small]
    refine ⟨rfl, fun direction => ?_, keeps.counts⟩
    have entries
        : (m.log.toward direction).entries = History.kept room direction history :=
      congrArg Ring.entries (keeps.rings direction)
    rw [History.kept, wanted, List.rtake, ← entries]
    cases direction <;> rfl
  · have refused : History.limit room (.logOn limit :: history) = History.limit room history :=
      if_neg small
    rw [if_neg small]
    refine ⟨rfl, fun direction => ?_, keeps.counts⟩
    have fits := History.length_kept_le room direction history
    have whole : (History.kept room direction history).rtake (History.limit room history)
        = History.kept room direction history := by
      rw [List.rtake, Nat.sub_eq_zero_of_le fits, List.drop_zero]
    rw [History.kept, refused, whole, ← keeps.rings direction]
    cases direction <;> rfl

theorem logOff (keeps : Keeps room history m)
    : Keeps room (.logOff :: history) { m with log := m.log.disable } where
  enabled := rfl
  rings direction := by
    have rings := keeps.rings direction
    cases direction <;> exact rings
  counts := keeps.counts

theorem logClear (keeps : Keeps room history m)
    : Keeps room (.logClear :: history) { m with log := m.log.clear } where
  enabled := keeps.enabled
  rings direction := by
    have limit := congrArg Ring.limit (keeps.rings direction)
    cases direction <;> exact congrArg (Ring.mk · []) limit
  counts := keeps.counts

theorem reset (keeps : Keeps room history m)
    : Keeps room (.reset :: history) m.reset where
  enabled := keeps.enabled
  rings direction := by
    have limit := congrArg Ring.limit (keeps.rings direction)
    cases direction <;> exact congrArg (Ring.mk · []) limit
  counts direction := by cases direction <;> rfl

/-- What a command does to the logs is what happens by it. -/
theorem carryOut {s : Interrupts × Memory} (keeps : Keeps room history s.2) (command : Command)
    : Keeps room (command.events s ++ history) (command.carryOut s).2 := by
  obtain ⟨interrupts, m⟩ := s
  cases command with
  | read address => exact keeps.read address interrupts
  | write address value => exact keeps.write address value interrupts
  | readWord address => exact keeps.readWord address interrupts
  | writeWord address value => exact (keeps.write address value interrupts).write _ _ _
  | peek address => exact keeps
  | logOn limit => exact keeps.logOn limit
  | logOff => exact keeps.logOff
  | logClear => exact keeps.logClear
  | reset => exact keeps.reset

end Keeps

variable {room : Nat} {start : Interrupts × Memory}

end Handheld.Memory
