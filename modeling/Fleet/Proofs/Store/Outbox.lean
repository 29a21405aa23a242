import Fleet.Proofs.Store.Listeners
import Mathlib.Data.List.Induction
import Mathlib.Data.List.Perm.Basic

namespace Fleet
namespace Store

/-!
# Editions that are passed on late

A change is made in two steps.  First the fleet is stored and stamped with the next version; this edition of it is then
passed on to the listeners.  Whoever makes a change may be held up between the two, while others store and pass on fleets
of their own.  So editions are passed on in any order, though one at a time, and some perhaps never.

The store only remembers which version was told last, and keeps an edition from the listeners when it is not later.
Since an edition is passed on no more than once and no two have one version, this tells apart exactly the editions that
are out of date, and the latest of all is never one of them.
-/

/-- A fleet that was stored, with its version. -/
structure Edition where
  version : Nat
  fleet : Snapshot

/-- A store, the editions that wait to be passed on, and those that were passed on. -/
structure Outbox where
  store : Store
  waiting : List Edition
  passed : List Edition

namespace Outbox

/-- What happens to a store and its editions. -/
inductive Event where
  | stamp (fleet : Snapshot)
  /-- Pass on the edition at a place among those that wait. -/
  | pass (place : Nat)
  | subscribe (label : String) (fails : Failing)
  | unsubscribe (listener : Nat)

def start (capacity : Nat) : Outbox :=
  ⟨.empty capacity, [], []⟩

/-- Store a fleet as the next edition, and tell nobody yet. -/
def stamp (outbox : Outbox) (fleet : Snapshot) : Outbox :=
  let version := outbox.store.version + 1
  { outbox with
    store := { outbox.store with fleet, version }
    waiting := outbox.waiting ++ [⟨version, fleet⟩] }

/-- Pass on the edition at a place among those that wait, if there is one. -/
def pass (outbox : Outbox) (place : Nat) : Outbox :=
  match outbox.waiting[place]? with
  | some edition =>
      { store := outbox.store.notify edition.version edition.fleet
        waiting := outbox.waiting.eraseIdx place
        passed := outbox.passed ++ [edition] }
  | none => outbox

def handle (outbox : Outbox) : Event → Outbox
  | .stamp fleet => outbox.stamp fleet
  | .pass place => outbox.pass place
  | .subscribe label fails => { outbox with store := (outbox.store.subscribe label fails).1 }
  | .unsubscribe listener => { outbox with store := outbox.store.unsubscribe listener }

/-- What becomes of a new store. -/
def after (capacity : Nat) (history : List Event) : Outbox :=
  history.foldl handle (start capacity)

def Event.fleet? : Event → Option Snapshot
  | stamp fleet => some fleet
  | _ => none

/-- The editions that come about in a history. -/
def editions (history : List Event) : List Edition :=
  (history.filterMap Event.fleet?).mapIdx fun place fleet => ⟨place + 1, fleet⟩

/-- A call comes before another one when its version is earlier, or the same and its listener was added earlier. -/
def Before (first second : Delivery) : Prop :=
  first.version < second.version ∨ first.version = second.version ∧ first.listener.id < second.listener.id

variable {outbox : Outbox} {history : List Event} {edition : Edition} {place : Nat}

/-! ## Editions -/

theorem after_concat (capacity : Nat) (history : List Event) (event : Event) :
    after capacity (history ++ [event]) = (after capacity history).handle event :=
  List.foldl_concat handle (start capacity) event history

theorem editions_stamp (history : List Event) (fleet : Snapshot) :
    editions (history ++ [.stamp fleet]) = editions history ++ [⟨(editions history).length + 1, fleet⟩] := by
  have stamped : [Event.stamp fleet].filterMap Event.fleet? = [fleet] := rfl
  unfold editions
  rw [List.filterMap_append, stamped, List.mapIdx_concat, List.length_mapIdx]

theorem editions_concat_of_fleet?_eq_none {event : Event} (silent : event.fleet? = none) (history : List Event) :
    editions (history ++ [event]) = editions history := by
  unfold editions
  rw [List.filterMap_append, List.filterMap_cons_none silent, List.filterMap_nil, List.append_nil]

theorem editions_subset_append (history more : List Event) : editions history ⊆ editions (history ++ more) := by
  unfold editions
  rw [List.filterMap_append, List.mapIdx_append]
  exact List.subset_append_left _ _

/-- Versions count the editions, from one on. -/
theorem numbered_editions (history : List Event) :
    (editions history).Pairwise (fun first second => first.version < second.version) ∧
      ∀ edition ∈ editions history, 0 < edition.version ∧ edition.version ≤ (editions history).length := by
  induction history using List.reverseRecOn with
  | nil => exact ⟨.nil, nofun⟩
  | append_singleton history event inductionHypothesis =>
      rcases inductionHypothesis with ⟨ordered, bounds⟩
      cases event with
      | stamp fleet =>
          rw [editions_stamp, List.length_append, List.length_singleton]
          constructor
          · refine List.pairwise_append.2 ⟨ordered, List.pairwise_singleton _ _, fun first member second new => ?_⟩
            obtain rfl := List.mem_singleton.1 new
            exact Nat.lt_succ_of_le (bounds first member).2
          · refine List.forall_mem_append.2 ⟨fun edition member => ?_, List.forall_mem_singleton.2 ?_⟩
            · exact ⟨(bounds edition member).1, Nat.le_succ_of_le (bounds edition member).2⟩
            · exact ⟨Nat.succ_pos _, Nat.le_refl _⟩
      | pass _ | subscribe _ _ | unsubscribe _ =>
          rw [editions_concat_of_fleet?_eq_none rfl]
          exact ⟨ordered, bounds⟩

/-! ## What holds after a history -/

/-- What is kept of a history. -/
structure Accords (outbox : Outbox) (history : List Event) : Prop where
  version : outbox.store.version = (editions history).length
  /-- Every edition was passed on or waits, once. -/
  shared : (outbox.passed ++ outbox.waiting).Perm (editions history)
  /-- No edition that was passed on is later than what was told last. -/
  latest : ∀ edition ∈ outbox.passed, edition.version ≤ outbox.store.delivered
  /-- What was told last was passed on. -/
  reached : outbox.store.delivered = 0 ∨ ∃ edition ∈ outbox.passed, edition.version = outbox.store.delivered
  numbered : outbox.store.Numbered
  told : ∀ delivery ∈ outbox.store.deliveries, ⟨delivery.version, delivery.snapshot⟩ ∈ outbox.passed
  forward : outbox.store.deliveries.Pairwise Before

theorem Accords.of_editions_eq (accords : outbox.Accords history) {other : List Event}
    (same : editions other = editions history) : outbox.Accords other :=
  { accords with
    version := same ▸ accords.version
    shared := same ▸ accords.shared }

theorem Accords.mem_editions_of_waiting (accords : outbox.Accords history) (waits : edition ∈ outbox.waiting) :
    edition ∈ editions history :=
  accords.shared.mem_iff.1 (List.mem_append_right _ waits)

theorem Accords.mem_editions_of_passed (accords : outbox.Accords history) (done : edition ∈ outbox.passed) :
    edition ∈ editions history :=
  accords.shared.mem_iff.1 (List.mem_append_left _ done)

/-- No edition that was passed on has the version of one that waits. -/
theorem Accords.version_ne (accords : outbox.Accords history) {earlier : Edition} (done : earlier ∈ outbox.passed)
    (waits : edition ∈ outbox.waiting) : earlier.version ≠ edition.version := by
  have distinct : (editions history).Pairwise fun first second => first.version ≠ second.version :=
    (numbered_editions history).1.imp Nat.ne_of_lt
  have apart := (accords.shared.pairwise_iff fun different => different.symm).2 distinct
  exact (List.pairwise_append.1 apart).2.2 earlier done edition waits

/-- An edition that waits is no later than what was told last just when a later one was passed on before it. -/
theorem Accords.superseded_iff (accords : outbox.Accords history) (waits : edition ∈ outbox.waiting) :
    edition.version ≤ outbox.store.delivered ↔ ∃ earlier ∈ outbox.passed, edition.version < earlier.version := by
  constructor
  · intro late
    rcases accords.reached with none | ⟨earlier, done, same⟩
    · have positive := ((numbered_editions history).2 edition (accords.mem_editions_of_waiting waits)).1
      omega
    · have different := accords.version_ne done waits
      exact ⟨earlier, done, by omega⟩
  · rintro ⟨earlier, done, later⟩
    exact Nat.le_of_lt (Nat.lt_of_lt_of_le later (accords.latest earlier done))

/-! ## Passing on -/

theorem pass_of_waiting (waits : outbox.waiting[place]? = some edition) :
    outbox.pass place =
      { store := outbox.store.notify edition.version edition.fleet
        waiting := outbox.waiting.eraseIdx place
        passed := outbox.passed ++ [edition] } := by
  unfold pass
  rw [waits]

theorem pass_of_none (nothing : outbox.waiting[place]? = none) : outbox.pass place = outbox := by
  unfold pass
  rw [nothing]

/-- An edition that is passed on is shown to all listeners, unless a later one was passed on before it. -/
theorem Accords.deliveries_pass (accords : outbox.Accords history) (waits : outbox.waiting[place]? = some edition) :
    (outbox.pass place).store.deliveries =
      outbox.store.deliveries ++
        if ∃ earlier ∈ outbox.passed, edition.version < earlier.version then []
        else outbox.store.listeners.map (Listener.told edition.version edition.fleet) := by
  have superseded := accords.superseded_iff (List.mem_of_getElem? waits)
  rw [pass_of_waiting waits]
  split
  · next late => rw [notify_of_le (superseded.2 late), List.append_nil]
  · next news => rw [notify_of_lt (Nat.lt_of_not_le (mt superseded.1 news))]

/-- To store a fleet and pass it on at once is to publish it. -/
theorem pass_stamp (outbox : Outbox) (fleet : Snapshot) :
    (outbox.stamp fleet).pass outbox.waiting.length = { outbox with
      store := outbox.store.publish fleet
      passed := outbox.passed ++ [⟨outbox.store.version + 1, fleet⟩] } := by
  have waits : (outbox.stamp fleet).waiting[outbox.waiting.length]? = some ⟨outbox.store.version + 1, fleet⟩ :=
    List.getElem?_concat_length
  have others : (outbox.stamp fleet).waiting.eraseIdx outbox.waiting.length = outbox.waiting := by
    simp [stamp, List.eraseIdx_append_of_length_le]
  rw [pass_of_waiting waits, others]
  rfl

/-! ## Every history -/

theorem accords_start (capacity : Nat) : (start capacity).Accords [] :=
  ⟨rfl, .refl _, nofun, .inl rfl, ⟨.nil, nofun⟩, nofun, .nil⟩

theorem Accords.stamp (accords : outbox.Accords history) (fleet : Snapshot) :
    (outbox.stamp fleet).Accords (history ++ [.stamp fleet]) where
  version := by
    rw [editions_stamp, List.length_append, List.length_singleton, ← accords.version]
    rfl
  shared := by
    rw [editions_stamp, ← accords.version]
    exact (List.append_assoc _ _ _).symm ▸ accords.shared.append_right _
  latest := accords.latest
  reached := accords.reached
  numbered := ⟨accords.numbered.ordered, accords.numbered.fresh⟩
  told := accords.told
  forward := accords.forward

theorem Accords.shared_pass (accords : outbox.Accords history) (waits : outbox.waiting[place]? = some edition) :
    (outbox.passed ++ [edition] ++ outbox.waiting.eraseIdx place).Perm (editions history) := by
  rcases List.getElem?_eq_some_iff.1 waits with ⟨inside, rfl⟩
  rw [List.append_assoc, List.singleton_append]
  exact ((List.getElem_cons_eraseIdx_perm inside).append_left outbox.passed).trans accords.shared

/-- An edition that is no news is passed on, and nobody is told. -/
theorem Accords.pass_of_le (accords : outbox.Accords history) (waits : outbox.waiting[place]? = some edition)
    (late : edition.version ≤ outbox.store.delivered) : (outbox.pass place).Accords history := by
  rw [pass_of_waiting waits, notify_of_le late]
  exact { accords with
    shared := accords.shared_pass waits
    latest := List.forall_mem_append.2 ⟨accords.latest, List.forall_mem_singleton.2 late⟩
    reached := accords.reached.imp_right fun ⟨earlier, done, told⟩ => ⟨earlier, List.mem_append_left _ done, told⟩
    told := fun delivery told => List.mem_append_left _ (accords.told delivery told) }

/-- An edition that is news comes after all that was told. -/
theorem Accords.pass_of_lt (accords : outbox.Accords history) (waits : outbox.waiting[place]? = some edition)
    (news : outbox.store.delivered < edition.version) : (outbox.pass place).Accords history := by
  have itself : edition ∈ outbox.passed ++ [edition] := List.mem_append_right _ (List.mem_singleton_self edition)
  rw [pass_of_waiting waits, notify_of_lt news]
  refine ⟨accords.version, accords.shared_pass waits, ?_, .inr ⟨edition, itself, rfl⟩,
    ⟨accords.numbered.ordered, accords.numbered.fresh⟩, ?_, ?_⟩
  · refine List.forall_mem_append.2 ⟨fun earlier done => ?_, List.forall_mem_singleton.2 (Nat.le_refl _)⟩
    exact Nat.le_trans (accords.latest earlier done) (Nat.le_of_lt news)
  · refine List.forall_mem_append.2 ⟨fun delivery told => List.mem_append_left _ (accords.told delivery told), ?_⟩
    intro delivery new
    rcases List.mem_map.1 new with ⟨listener, _, rfl⟩
    exact itself
  · refine List.pairwise_append.2 ⟨accords.forward, ?_, fun first earlier second new => ?_⟩
    · exact List.pairwise_map.2 (accords.numbered.ordered.imp fun lower => .inr ⟨rfl, lower⟩)
    · rcases List.mem_map.1 new with ⟨listener, _, rfl⟩
      exact .inl (Nat.lt_of_le_of_lt (accords.latest _ (accords.told first earlier)) news)

theorem Accords.pass (accords : outbox.Accords history) (place : Nat) : (outbox.pass place).Accords history := by
  cases waits : outbox.waiting[place]? with
  | none => exact (pass_of_none waits).symm ▸ accords
  | some edition =>
      rcases Nat.lt_or_ge outbox.store.delivered edition.version with news | late
      · exact accords.pass_of_lt waits news
      · exact accords.pass_of_le waits late

/-- What a history makes of a store accords with it. -/
theorem accords_after (capacity : Nat) (history : List Event) : (after capacity history).Accords history := by
  induction history using List.reverseRecOn with
  | nil => exact accords_start capacity
  | append_singleton history event accords =>
      rw [after_concat]
      cases event with
      | stamp fleet => exact accords.stamp fleet
      | pass place => exact (accords.pass place).of_editions_eq (editions_concat_of_fleet?_eq_none rfl history)
      | subscribe label fails =>
          refine Accords.of_editions_eq ?_ (editions_concat_of_fleet?_eq_none rfl history)
          exact { accords with numbered := accords.numbered.subscribe label fails }
      | unsubscribe listener =>
          refine Accords.of_editions_eq ?_ (editions_concat_of_fleet?_eq_none rfl history)
          exact { accords with numbered := accords.numbered.unsubscribe listener }

/-- Once the latest edition was told, nothing more is told. -/
theorem quiet_after {capacity : Nat} {history : List Event} {top : Nat}
    (told : (after capacity history).store.delivered = top) (more : List Event)
    (highest : ∀ edition ∈ editions (history ++ more), edition.version ≤ top) :
    (after capacity (history ++ more)).store.deliveries = (after capacity history).store.deliveries ∧
      (after capacity (history ++ more)).store.delivered = top := by
  induction more using List.reverseRecOn with
  | nil =>
      rw [List.append_nil]
      exact ⟨rfl, told⟩
  | append_singleton more event inductionHypothesis =>
      rw [← List.append_assoc] at highest ⊢
      have earlier := inductionHypothesis fun edition member => highest edition (editions_subset_append _ [event] member)
      rw [after_concat]
      cases event with
      | stamp _ | subscribe _ _ | unsubscribe _ => exact earlier
      | pass place =>
          have accords := accords_after capacity (history ++ more)
          change ((after capacity (history ++ more)).pass place).store.deliveries = _ ∧
            ((after capacity (history ++ more)).pass place).store.delivered = top
          cases waits : (after capacity (history ++ more)).waiting[place]? with
          | none => rwa [pass_of_none waits]
          | some edition =>
              have known := accords.mem_editions_of_waiting (List.mem_of_getElem? waits)
              have late := highest edition (editions_subset_append _ [.pass place] known)
              rw [← earlier.2] at late
              rw [pass_of_waiting waits, notify_of_le late]
              exact earlier

/-- Whoever is registered when the latest edition is passed on sees it, and nothing after it. -/
theorem last_seen {capacity : Nat} {before rest : List Event} {top : Edition}
    (waits : (after capacity before).waiting[place]? = some top)
    (highest : ∀ edition ∈ editions (before ++ .pass place :: rest), edition.version ≤ top.version)
    {listener : Listener} (registered : listener ∈ (after capacity before).store.listeners) :
    ((after capacity (before ++ .pass place :: rest)).store.seen listener.id).getLast? = some top.fleet := by
  have accords := accords_after capacity before
  have news : (after capacity before).store.delivered < top.version := by
    refine Nat.lt_of_not_le fun late => ?_
    rcases (accords.superseded_iff (List.mem_of_getElem? waits)).1 late with ⟨earlier, done, later⟩
    have known := editions_subset_append before (.pass place :: rest) (accords.mem_editions_of_passed done)
    exact absurd (highest earlier known) (Nat.not_le_of_lt later)
  have passed : (after capacity (before ++ [.pass place])) = (after capacity before).pass place :=
    after_concat capacity before (.pass place)
  rw [pass_of_waiting waits, notify_of_lt news] at passed
  have told : (after capacity (before ++ [.pass place])).store.delivered = top.version := by rw [passed]
  rw [List.append_cons] at highest ⊢
  unfold seen
  rw [(quiet_after told rest highest).1, passed, List.filter_append, List.map_append,
    seen_once accords.numbered.ordered registered, List.getLast?_concat]

theorem increasing_of_forward {deliveries : List Delivery} (forward : deliveries.Pairwise Before) (id : Nat) :
    ((deliveries.filter fun delivery => delivery.listener.id = id).map Delivery.version).Pairwise (· < ·) := by
  refine List.pairwise_map.2 (List.pairwise_filter.2 (forward.imp fun before firstOwn secondOwn => ?_))
  rcases before with earlier | ⟨_, lower⟩
  · exact earlier
  · have first := of_decide_eq_true firstOwn
    have second := of_decide_eq_true secondOwn
    omega

/-- To be told never leads back, in whatever order the editions are passed on.

To publish is to stamp and to pass on at once.  Every edition waits or was passed on, once.  The versions that one
listener is told increase strictly, those that all are told never decrease, and each comes with its own fleet.  An
edition that is passed on is told to all listeners unless a later one was passed on before.  Once the latest of all is
passed on, it is what everyone registered at that time saw last. -/
theorem deliveries_forward (capacity : Nat) (history : List Event) :
    let outbox := after capacity history
    (∀ fleet, ((outbox.stamp fleet).pass outbox.waiting.length).store = outbox.store.publish fleet) ∧
    (outbox.passed ++ outbox.waiting).Perm (editions history) ∧
    (∀ id, ((outbox.store.deliveries.filter fun delivery => delivery.listener.id = id).map
      Delivery.version).Pairwise (· < ·)) ∧
    (outbox.store.deliveries.Pairwise fun first second => first.version ≤ second.version) ∧
    (∀ delivery ∈ outbox.store.deliveries, ⟨delivery.version, delivery.snapshot⟩ ∈ outbox.passed) ∧
    (∀ place edition, outbox.waiting[place]? = some edition →
      (outbox.pass place).store.deliveries = outbox.store.deliveries ++
        if ∃ earlier ∈ outbox.passed, edition.version < earlier.version then []
        else outbox.store.listeners.map (Listener.told edition.version edition.fleet)) ∧
    ∀ before place rest top, history = before ++ .pass place :: rest →
      (after capacity before).waiting[place]? = some top →
      (∀ edition ∈ editions history, edition.version ≤ top.version) →
      ∀ listener ∈ (after capacity before).store.listeners,
        (outbox.store.seen listener.id).getLast? = some top.fleet := by
  intro outbox
  have accords : outbox.Accords history := accords_after capacity history
  refine ⟨fun fleet => ?_, accords.shared, increasing_of_forward accords.forward, ?_, accords.told, ?_, ?_⟩
  · rw [pass_stamp]
  · refine accords.forward.imp fun before => ?_
    rcases before with earlier | ⟨same, _⟩
    · exact Nat.le_of_lt earlier
    · exact Nat.le_of_eq same
  · intro place edition waits
    exact accords.deliveries_pass waits
  · rintro before place rest top rfl waits highest listener registered
    exact last_seen waits highest registered

/-- The gateway is updated while the edition before is held up, which then comes too late. -/
theorem deliveries_forward_overtaken :
    let updated : Snapshot := { Snapshot.empty with gateway := { Gateway.unknown with provider := some "fritzbox" } }
    let before : List Event := [.subscribe "first" false, .stamp .empty, .stamp updated]
    let overtaken := after 5 (before ++ [.pass 1])
    (after 5 before).waiting[1]? = some ⟨2, updated⟩ ∧
      overtaken.waiting[0]? = some ⟨1, .empty⟩ ∧
      (overtaken.pass 0).store.deliveries = overtaken.store.deliveries ∧
      ((after 5 (before ++ [.pass 1, .pass 0])).store.seen 0).getLast? = some updated := by
  intro updated before overtaken
  have ahead : (after 5 before).waiting[1]? = some ⟨2, updated⟩ := rfl
  have behind : overtaken.waiting[0]? = some ⟨1, .empty⟩ := rfl
  rcases deliveries_forward 5 (before ++ [.pass 1]) with ⟨_, _, _, _, _, passed, _⟩
  rcases deliveries_forward 5 (before ++ [.pass 1, .pass 0]) with ⟨_, _, _, _, _, _, last⟩
  have late : ∃ earlier ∈ overtaken.passed, 1 < earlier.version :=
    ⟨⟨2, updated⟩, List.mem_singleton_self _, Nat.one_lt_two⟩
  have skipped := passed 0 ⟨1, .empty⟩ behind
  rw [if_pos late, List.append_nil] at skipped
  have highest : ∀ edition ∈ editions (before ++ [.pass 1, .pass 0]), edition.version ≤ 2 :=
    fun edition member => ((numbered_editions _).2 edition member).2
  exact ⟨ahead, behind, skipped, last before 1 [.pass 0] ⟨2, updated⟩ rfl ahead highest ⟨0, "first", false⟩
    (List.mem_singleton_self _)⟩

end Outbox
end Store
end Fleet
