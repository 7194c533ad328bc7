import Handheld.Proofs.Attempt
import Handheld.Trace.Hub
import Mathlib.Data.List.Nodup

/-! Who hears of an event.
Observers come and go, some of them dropped by others who are just being told; an event reaches
those who were there when it was emitted, each of them once, in the order in which they had come.
-/

namespace Handheld.Trace.Hub

-----------------------------------------------------------------------------------------
-- Deeds and what they should come to
-----------------------------------------------------------------------------------------

/-- Whom an observer drops when an event has reached him, given his name and all events that have
reached him, the latest first. -/
abbrev Manners := Label → List Event → List Label

/-- The observer of a given name. -/
def Manners.attend (manners : Manners) (name : Label) : Observer :=
  .attendant name (manners name)

/-- What can be asked of a hub. -/
inductive Deed
  | register (name : Label)
  | unregister (name : Label)
  | emit (event : Event)

namespace Deed

/-- What a deed does to a hub. -/
def attempt (manners : Manners) : Deed → Attempt Hub Unit
  | .register name => modify (Hub.register (manners.attend name))
  | .unregister name => modify (Hub.unregister name)
  | .emit event => Hub.emit event

/-- The name that a deed registers. -/
def registered? : Deed → Option Label
  | .register name => some name
  | .unregister _ | .emit _ => none

end Deed

/-- What has been asked of a hub, the latest deed first. -/
abbrev History := List Deed

namespace History

variable (manners : Manners)

/-- Where a history leads from a hub that nobody follows. -/
def replay (history : History) : Hub :=
  history.foldr (fun deed hub => ((deed.attempt manners).perform hub).2) {}

/-- The names that were ever registered. -/
def named (history : History) : List Label :=
  history.filterMap Deed.registered?

mutual

/-- An observer is registered. He is no longer once someone who has heard of an event drops
him. -/
def isIn : History → Label → Bool
  | [], _ => false
  | .register other :: earlier, name => other = name || isIn earlier name
  | .unregister other :: earlier, name => other ≠ name && isIn earlier name
  | .emit event :: earlier, name =>
    isIn earlier name
      && !(named earlier).any fun other =>
        isIn earlier other && (manners other (event :: heard earlier other)).contains name

/-- The events that have been emitted while an observer was registered, the latest first. -/
def heard : History → Label → List Event
  | [], _ => []
  | .emit event :: earlier, name =>
    if isIn earlier name then event :: heard earlier name else heard earlier name
  | .register _ :: earlier, name | .unregister _ :: earlier, name => heard earlier name

end

/-- How many deeds there had been when an observer was registered last. Registering him while he
is registered has no effect. -/
def joined : History → Label → Nat
  | [], _ => 0
  | .register other :: earlier, name =>
    if other = name ∧ !isIn manners earlier name then earlier.length else joined earlier name
  | .unregister _ :: earlier, name | .emit _ :: earlier, name => joined earlier name

/-- The observers of a hub are those that a history has left, in the order in which they came, and
everyone has kept what there was to hear. -/
structure Attended (history : History) (hub : Hub) : Prop where
  observers : hub.observers = hub.keepers.map manners.attend
  distinct : hub.keepers.Nodup
  present : ∀ name, name ∈ hub.keepers ↔ history.isIn manners name
  ordered : hub.keepers.Pairwise fun one other =>
    history.joined manners one < history.joined manners other
  kept : ∀ name, hub.keptBy name = history.heard manners name

end History

-----------------------------------------------------------------------------------------
-- Dropping observers
-----------------------------------------------------------------------------------------

section Seats

variable {manners : Manners} {names : List Label} {hub : Hub}

theorem keepers_of_observers (seats : hub.observers = names.map manners.attend)
    : hub.keepers = names := by
  rw [keepers, seats, List.filterMap_map]
  exact List.filterMap_some

theorem register_observers (seats : hub.observers = names.map manners.attend) (name : Label)
    : (hub.register (manners.attend name)).observers
      = (if name ∈ names then names else names ++ [name]).map manners.attend := by
  have known : hub.observers.any (·.keeper? = (manners.attend name).keeper?)
      = decide (name ∈ names) := by
    rw [seats, List.any_map, Bool.eq_iff_iff]
    simp [Manners.attend, Observer.keeper?]
  rw [register, known]
  by_cases member : name ∈ names
  · simp [member, seats]
  · simp [member, seats]

theorem register_kept (observer : Observer) (hub : Hub)
    : (hub.register observer).kept = hub.kept := by
  rw [register]
  split <;> rfl

theorem unregister_observers (seats : hub.observers = names.map manners.attend) (name : Label)
    : (hub.unregister name).observers = (names.erase name).map manners.attend := by
  have same : Observer.isKeeper name ∘ manners.attend = (name == ·) := by
    funext other
    simp [Observer.isKeeper, Manners.attend, Observer.keeper?, beq_eq_decide, eq_comm]
  rw [unregister, List.erase_eq_eraseP, ← same, ← List.eraseP_map, ← seats]

/-- Dropping several observers leaves the others in their places. -/
theorem unregisterAll_observers (dropped : List Label) (distinct : names.Nodup)
    (seats : hub.observers = names.map manners.attend)
    : (dropped.foldl (fun hub other => hub.unregister other) hub).observers
      = (names.filter (· ∉ dropped)).map manners.attend := by
  rw [← distinct.sdiff_eq_filter]
  induction dropped generalizing names hub with
  | nil => exact seats
  | cons name rest hypothesis =>
      rw [List.foldl_cons, List.diff_cons]
      exact hypothesis (distinct.erase name) (unregister_observers seats name)

-----------------------------------------------------------------------------------------
-- Telling observers
-----------------------------------------------------------------------------------------

theorem unregisterAll_kept (dropped : List Label) (hub : Hub)
    : (dropped.foldl (fun hub other => hub.unregister other) hub).kept = hub.kept := by
  induction dropped generalizing hub with
  | nil => rfl
  | cons name rest hypothesis => exact hypothesis _

theorem keptBy_of_kept {hub other : Hub} {name noting : Label} {event : Event}
    (noted : other.kept = (noting, event) :: hub.kept)
    : other.keptBy name
      = if noting = name then event :: hub.keptBy name else hub.keptBy name := by
  rw [keptBy, noted]
  by_cases same : noting = name <;> simp [keptBy, same]

/-- An observer has heard of an event, has kept it, and has dropped whom he does not want. -/
def told (manners : Manners) (event : Event) (hub : Hub) (name : Label) : Hub :=
  (manners name (event :: hub.keptBy name)).foldl (fun hub other => hub.unregister other)
    { hub with kept := (name, event) :: hub.kept }

theorem perform_deliver (event : Event) (name : Label) (hub : Hub)
    : (deliver event (manners.attend name)).perform hub = (.ok (), hub.told manners event name) := by
  have noted : { hub with kept := (name, event) :: hub.kept }.keptBy name
      = event :: hub.keptBy name := by rw [keptBy_of_kept rfl, if_pos rfl]
  rw [told, ← noted]
  rfl

/-- An audience is told one after the other, whoever of them has been dropped by then. -/
theorem perform_deliver_all (event : Event) (audience : List Label) (hub : Hub)
    : ((audience.map manners.attend).forM (deliver event)).perform hub
      = (.ok (), audience.foldl (told manners event) hub) := by
  induction audience generalizing hub with
  | nil => rfl
  | cons name rest hypothesis =>
      have split : ((name :: rest).map manners.attend).forM (deliver event)
          = deliver event (manners.attend name)
              >>= fun _ => (rest.map manners.attend).forM (deliver event) := rfl
      rw [split, Attempt.perform_bind_of (perform_deliver event name hub)]
      exact hypothesis _

theorem told_kept (event : Event) (hub : Hub) (name : Label)
    : (hub.told manners event name).kept = (name, event) :: hub.kept :=
  unregisterAll_kept _ _

theorem toldAll_kept (event : Event) (audience : List Label) (hub : Hub)
    : (audience.foldl (told manners event) hub).kept
      = (audience.map (·, event)).reverse ++ hub.kept := by
  induction audience generalizing hub with
  | nil => rfl
  | cons name rest hypothesis =>
      rw [List.foldl_cons, hypothesis, told_kept, List.map_cons, List.reverse_cons,
        List.append_assoc, List.singleton_append]

/-- Everyone in an audience keeps an event once. -/
theorem toldAll_keptBy (event : Event) {audience : List Label} (once : audience.Nodup) (hub : Hub)
    (name : Label)
    : (audience.foldl (told manners event) hub).keptBy name
      = if name ∈ audience then event :: hub.keptBy name else hub.keptBy name := by
  induction audience generalizing hub with
  | nil => rfl
  | cons other rest hypothesis =>
      obtain ⟨absent, once⟩ := List.nodup_cons.mp once
      rw [List.foldl_cons, hypothesis once, keptBy_of_kept (told_kept event hub other)]
      by_cases same : other = name
      · rw [← same, if_neg absent, if_pos rfl, if_pos List.mem_cons_self]
      · simp [same, Ne.symm same]

/-- No one in an audience drops an observer upon an event. -/
def spares (manners : Manners) (event : Event) (audience : List Label) (hub : Hub) (name : Label)
    : Bool :=
  !audience.any fun other => (manners other (event :: hub.keptBy other)).contains name

/-- What one of an audience hears makes no difference to what the others have heard. -/
theorem spares_cons (event : Event) (hub : Hub) {name : Label} {rest : List Label}
    (absent : name ∉ rest) (other : Label)
    : spares manners event (name :: rest) hub other
      = (spares manners event rest (hub.told manners event name) other
          && decide (other ∉ manners name (event :: hub.keptBy name))) := by
  have heard : ∀ one ∈ rest, (hub.told manners event name).keptBy one = hub.keptBy one := by
    intro one member
    rw [keptBy_of_kept (told_kept event hub name), if_neg]
    rintro rfl
    exact absent member
  have same : (rest.any fun one =>
        (manners one (event :: (hub.told manners event name).keptBy one)).contains other)
      = rest.any fun one => (manners one (event :: hub.keptBy one)).contains other := by
    rw [Bool.eq_iff_iff, List.any_eq_true, List.any_eq_true]
    exact exists_congr fun one => and_congr_right fun member => by rw [heard one member]
  rw [spares, spares, same, List.any_cons, Bool.not_or, Bool.and_comm, List.contains_eq_mem,
    decide_not]

/-- The observers whom no one of an audience has dropped stay in their places. -/
theorem toldAll_observers (event : Event) {audience : List Label} (once : audience.Nodup)
    (distinct : names.Nodup) (seats : hub.observers = names.map manners.attend)
    : (audience.foldl (told manners event) hub).observers
      = (names.filter (spares manners event audience hub)).map manners.attend := by
  induction audience generalizing names hub with
  | nil =>
      have everyone : names.filter (spares manners event [] hub) = names :=
        List.filter_eq_self.mpr fun _ _ => rfl
      rw [everyone]
      exact seats
  | cons name rest hypothesis =>
      obtain ⟨absent, once⟩ := List.nodup_cons.mp once
      have left : (hub.told manners event name).observers = (names.filter
          (· ∉ manners name (event :: hub.keptBy name))).map manners.attend :=
        unregisterAll_observers _ distinct seats
      rw [List.foldl_cons, hypothesis once (distinct.filter _) left, List.filter_filter,
        funext (spares_cons event hub absent)]

end Seats

-----------------------------------------------------------------------------------------
-- What a history comes to
-----------------------------------------------------------------------------------------

/-- What a deed delivers, in order: an event goes to everyone who is registered when it is
emitted. -/
def Deed.deliveries (hub : Hub) : Deed → List (Label × Event)
  | .emit event => hub.keepers.map (·, event)
  | .register _ | .unregister _ => []

namespace History

variable {manners : Manners} {history : History} {hub : Hub}

theorem mem_named_of_isIn {name : Label} (member : history.isIn manners name)
    : name ∈ history.named := by
  induction history with
  | nil => cases member
  | cons deed earlier hypothesis =>
      cases deed with
      | register other =>
          rw [isIn, Bool.or_eq_true, decide_eq_true_eq] at member
          have named_cons : named (.register other :: earlier) = other :: named earlier := rfl
          rw [named_cons, List.mem_cons]
          exact member.imp Eq.symm hypothesis
      | unregister other =>
          rw [isIn, Bool.and_eq_true] at member
          exact hypothesis member.2
      | emit event =>
          rw [isIn, Bool.and_eq_true] at member
          exact hypothesis member.1

/-- Registering anyone makes no difference to when those joined who are registered. -/
theorem joined_register {name other : Label} (member : history.isIn manners other)
    : joined manners (.register name :: history) other = history.joined manners other := by
  rw [joined, if_neg]
  rintro ⟨-, absent⟩
  rw [member] at absent
  cases absent

/-- Whoever is registered has joined before now. -/
theorem joined_lt {name : Label} (member : history.isIn manners name)
    : history.joined manners name < history.length := by
  induction history with
  | nil => cases member
  | cons deed earlier hypothesis =>
      rw [List.length_cons]
      cases deed with
      | register other =>
          by_cases known : isIn manners earlier name
          · rw [joined_register known]
            exact Nat.lt_succ_of_lt (hypothesis known)
          · have newcomer : other = name := by simpa [isIn, known] using member
            rw [joined, if_pos ⟨newcomer, by simp [known]⟩]
            exact Nat.lt_succ_self _
      | unregister other =>
          rw [isIn, Bool.and_eq_true] at member
          exact Nat.lt_succ_of_lt (hypothesis member.2)
      | emit event =>
          rw [isIn, Bool.and_eq_true] at member
          exact Nat.lt_succ_of_lt (hypothesis member.1)

namespace Attended

theorem of_observers (names : List Label) (seats : hub.observers = names.map manners.attend)
    (distinct : names.Nodup) (present : ∀ name, name ∈ names ↔ history.isIn manners name)
    (ordered : names.Pairwise fun one other =>
      history.joined manners one < history.joined manners other)
    (kept : ∀ name, hub.keptBy name = history.heard manners name)
    : history.Attended manners hub := by
  have same : hub.keepers = names := keepers_of_observers seats
  rw [← same] at seats distinct present ordered
  exact ⟨seats, distinct, present, ordered, kept⟩

/-- A registration leaves those who were registered in their order. -/
theorem joined_register (attended : history.Attended manners hub) (name : Label)
    : hub.keepers.Pairwise fun one other =>
        joined manners (.register name :: history) one
          < joined manners (.register name :: history) other := by
  refine attended.ordered.imp_of_mem ?_
  intro one other first second earlier
  rw [History.joined_register ((attended.present one).mp first),
    History.joined_register ((attended.present other).mp second)]
  exact earlier

theorem register (attended : history.Attended manners hub) (name : Label)
    : Attended manners (.register name :: history) (hub.register (manners.attend name)) := by
  have kept : ∀ other, (hub.register (manners.attend name)).keptBy other
      = hub.keptBy other := by
    intro other
    rw [keptBy, register_kept, ← keptBy]
  by_cases member : name ∈ hub.keepers
  · have known : history.isIn manners name := (attended.present name).mp member
    refine of_observers hub.keepers ?_ attended.distinct ?_ ?_ ?_
    · rw [register_observers attended.observers, if_pos member]
    · intro other
      rw [attended.present other, isIn, Bool.or_eq_true, decide_eq_true_eq]
      constructor
      · exact .inr
      · rintro (rfl | present)
        · exact known
        · exact present
    · exact attended.joined_register name
    · intro other
      rw [kept, attended.kept, heard]
  · have fresh : ¬ history.isIn manners name := fun known =>
      member ((attended.present name).mpr known)
    refine of_observers (hub.keepers ++ [name]) ?_ ?_ ?_ ?_ ?_
    · rw [register_observers attended.observers, if_neg member]
    · exact List.concat_eq_append ▸ attended.distinct.concat member
    · intro other
      rw [List.mem_append, List.mem_singleton, attended.present other, isIn, Bool.or_eq_true,
        decide_eq_true_eq, or_comm, eq_comm]
    · refine List.pairwise_append.mpr
        ⟨attended.joined_register name, List.pairwise_singleton _ _, ?_⟩
      intro other old last new
      rw [List.mem_singleton.mp new]
      have known : history.isIn manners other := (attended.present other).mp old
      have latest : joined manners (.register name :: history) name = history.length := by
        rw [joined, if_pos ⟨rfl, by simp [fresh]⟩]
      rw [History.joined_register known, latest]
      exact joined_lt known
    · intro other
      rw [kept, attended.kept, heard]

theorem unregister (attended : history.Attended manners hub) (name : Label)
    : Attended manners (.unregister name :: history) (hub.unregister name) := by
  refine of_observers (hub.keepers.erase name) ?_ ?_ ?_ ?_ ?_
  · exact unregister_observers attended.observers name
  · exact attended.distinct.erase name
  · intro other
    rw [attended.distinct.mem_erase_iff, attended.present, isIn, Bool.and_eq_true,
      decide_eq_true_eq, ne_comm]
  · exact attended.ordered.sublist List.erase_sublist
  · intro other
    exact attended.kept other

theorem emit (attended : history.Attended manners hub) (event : Event)
    : Attended manners (.emit event :: history)
        (hub.keepers.foldl (told manners event) hub) := by
  refine of_observers _ (toldAll_observers event attended.distinct attended.distinct
    attended.observers) (attended.distinct.filter _) ?_ ?_ ?_
  · intro name
    have audience : (history.named.any fun other => history.isIn manners other
          && (manners other (event :: history.heard manners other)).contains name)
        = hub.keepers.any fun other =>
            (manners other (event :: hub.keptBy other)).contains name := by
      rw [Bool.eq_iff_iff, List.any_eq_true, List.any_eq_true]
      refine exists_congr fun other => ?_
      rw [Bool.and_eq_true, attended.present other, attended.kept other]
      exact ⟨And.right, fun told => ⟨mem_named_of_isIn told.1, told⟩⟩
    rw [List.mem_filter, attended.present name, isIn, audience, Bool.and_eq_true, spares]
  · exact attended.ordered.sublist List.filter_sublist
  · intro name
    rw [toldAll_keptBy event attended.distinct, attended.kept, heard]
    exact if_congr (attended.present name) rfl rfl

/-- An emission reaches everyone who is registered when it begins. -/
theorem perform_emit (attended : history.Attended manners hub) (event : Event)
    : ((Deed.emit event).attempt manners).perform hub
      = (.ok (), hub.keepers.foldl (told manners event) hub) := by
  have split : ((Deed.emit event).attempt manners).perform hub
      = (hub.observers.forM (deliver event)).perform hub := rfl
  rw [split, attended.observers, perform_deliver_all]

theorem perform (attended : history.Attended manners hub) (deed : Deed)
    : Attended manners (deed :: history) ((deed.attempt manners).perform hub).2 := by
  cases deed with
  | register name => exact attended.register name
  | unregister name => exact attended.unregister name
  | emit event =>
      rw [attended.perform_emit event]
      exact attended.emit event

/-- No deed fails, and it delivers what it should. -/
theorem delivers (attended : history.Attended manners hub) (deed : Deed)
    : ((deed.attempt manners).perform hub).1 = .ok ()
      ∧ ((deed.attempt manners).perform hub).2.kept
        = (deed.deliveries hub).reverse ++ hub.kept := by
  cases deed with
  | register name => exact ⟨rfl, register_kept _ hub⟩
  | unregister name => exact ⟨rfl, rfl⟩
  | emit event =>
      rw [attended.perform_emit event]
      exact ⟨rfl, toldAll_kept event hub.keepers hub⟩

end Attended

theorem attended_replay (manners : Manners) (history : History)
    : history.Attended manners (history.replay manners) := by
  induction history with
  | nil => exact ⟨rfl, .nil, fun _ => ⟨nofun, nofun⟩, .nil, fun _ => rfl⟩
  | cons deed earlier hypothesis => exact hypothesis.perform deed

/-- Whatever has been asked of a hub, and whomever its observers drop while they are being told:
the observers are those who should be registered, no one twice, in the order in which they joined
last, and an emission reaches each of them once, in this order, and nobody else. Witness: one lemma
for each deed about whom it leaves, in which an emission is a fold over those registered before. -/
theorem replay_delivers (manners : Manners) (history : History)
    : history.Attended manners (history.replay manners)
      ∧ ∀ deed,
        ((deed.attempt manners).perform (history.replay manners)).1 = .ok ()
        ∧ (replay manners (deed :: history)).kept
          = (deed.deliveries (history.replay manners)).reverse
            ++ (history.replay manners).kept := by
  have attended := attended_replay manners history
  exact ⟨attended, attended.delivers⟩

/-- The first observer drops the second one, who still hears of the event that is under way. -/
example
    : (replay (fun name _ => if name = .text "a" then [.text "b"] else [])
        [.emit .stop, .emit .stop, .register "b", .register "a"]).kept.map Prod.fst
      = [.text "a", .text "b", .text "a"] := by
  decide

end History

end Handheld.Trace.Hub
