import Fleet.Proofs.Store.Operation

namespace Fleet
namespace Store

/-!
# Listeners and their handles

Listeners are told of changes, and only of changes.  What a change is depends on the store as it is: a node that is
known already cannot become known, and a connection that is up cannot come up.

Whoever adds a listener gets a handle by which the listener can be removed.  The handle can be let go instead.  Then the
listener stays for as long as the store.  Ids are given in the order in which listeners are added, and never twice, so
after any history the listeners that are registered can be read from the history.
-/

/-! ## What changes the fleet -/

/-- Whether a change is one for the store as it is.  To be told again of a node or of a connection that are known
already is no change, and a migration does not change the fleet. -/
def Change.changes (store : Store) : Change → Bool
  | update _ _ => true
  | register id => !store.knows id
  | setConnection id connected => store.connection? id != some connected
  | recordMigration _ _ => false
  | updateGateway _ => true

theorem connection?_eq_some_iff {store : Store} {id : String} {connected : Bool} :
    store.connection? id = some connected ↔
      (store.knows id && (store.fleet.node id).connected == connected) = true := by
  unfold connection? node? knows Keyed.contains Snapshot.node
  cases store.fleet.nodes.get? id with
  | none => simp
  | some node => simp

/-- What is a change is published, with a fleet that does not depend on what was published before. -/
theorem apply_of_changes {store : Store} {change : Change} (changes : change.changes store = true) (now : UInt64) :
    ∃ fleet, (store.apply now change).1 = store.publish fleet := by
  cases change with
  | update id report => exact ⟨_, rfl⟩
  | register id =>
      have unknown : store.knows id = false := by simpa [Change.changes] using changes
      refine ⟨store.fleet.setNode id .unknown, ?_⟩
      exact if_neg (by simp [unknown])
  | setConnection id connected =>
      have other : store.connection? id ≠ some connected := by simpa [Change.changes] using changes
      exact ⟨_, if_neg (mt connection?_eq_some_iff.2 other)⟩
  | recordMigration id event => cases changes
  | updateGateway gateway => exact ⟨_, rfl⟩

/-- What is no change leaves all but the log of migrations as it was. -/
theorem apply_of_not_changes {store : Store} {change : Change} (same : change.changes store = false) (now : UInt64) :
    ∃ migrations, (store.apply now change).1 = { store with migrations } := by
  cases change with
  | register id =>
      have known : store.knows id = true := by simpa [Change.changes] using same
      exact ⟨store.migrations, if_pos known⟩
  | setConnection id connected =>
      have already : store.connection? id = some connected := by simpa [Change.changes] using same
      exact ⟨store.migrations, if_pos (connection?_eq_some_iff.1 already)⟩
  | recordMigration id event =>
      rw [apply_recordMigration]
      split
      · exact ⟨_, rfl⟩
      · exact ⟨store.migrations, rfl⟩
  | update | updateGateway => cases same

/-! ## Listeners and their handles -/

/-- A store, and the handles of listeners that are held outside. -/
structure Attended where
  store : Store
  handles : List Nat

/-- A step in the life of a store and of the handles of its listeners. -/
inductive Step where
  | change (change : Change)
  | ask (question : Question)
  | subscribe (label : String) (fails : Failing)
  /-- Use a handle, which is given up with that. -/
  | unsubscribe (handle : Nat)
  /-- Let a handle go without using it. -/
  | letGo (handle : Nat)

namespace Attended

def start (capacity : Nat) : Attended :=
  ⟨.empty capacity, []⟩

/-- Give up a handle. -/
def without (held : Attended) (handle : Nat) : Attended :=
  { held with handles := held.handles.filter fun other => other != handle }

/-- Use a handle to remove its listener.  Nobody can use a handle that is not held. -/
def remove (held : Attended) (handle : Nat) : Attended :=
  if handle ∈ held.handles then { held with store := held.store.unsubscribe handle }.without handle else held

/-- Take a step. -/
def attend : Machine Attended Step Answer
  | held, now, .change change =>
      let (store, answer) := held.store.apply now change
      ({ held with store }, answer)
  | held, _, .ask question => (held, held.store.answer question)
  | held, _, .subscribe label fails =>
      let (store, id) := held.store.subscribe label fails
      (⟨store, held.handles ++ [id]⟩, .listener id)
  | held, _, .unsubscribe handle => (held.remove handle, .done)
  | held, _, .letGo handle => (held.without handle, .done)

end Attended

/-- Whether a step changes the fleet. -/
def Step.changes (store : Store) : Step → Bool
  | .change given => given.changes store
  | _ => false

/-- The number of listeners that are added in a history. -/
def subscriptions (history : List (UInt64 × Step)) : Nat :=
  history.countP fun
    | (_, .subscribe _ _) => true
    | _ => false

/-- A listener whose handle is held is not removed in what follows.  It can be removed as long as the handle was not let
go. -/
def Stays (id : Nat) : List (UInt64 × Step) → Prop
  | [] => True
  | (_, .unsubscribe handle) :: rest => handle ≠ id ∧ Stays id rest
  | (_, .letGo handle) :: rest => handle = id ∨ Stays id rest
  | _ :: rest => Stays id rest

/-! ## One step -/

/-- What comes after a store is told to its listeners if it is a change, and is no news to them otherwise. -/
structure Told (store after : Store) (changes : Bool) : Prop where
  listeners : after.listeners = store.listeners
  nextListener : after.nextListener = store.nextListener
  prompt : after.delivered ≤ after.version
  deliveries : after.deliveries =
    store.deliveries ++
      if changes then store.listeners.map (Listener.told after.version after.fleet) else []
  fleet : changes = false → after.fleet = store.fleet

theorem told_publish {store : Store} (prompt : store.delivered ≤ store.version) (fleet : Snapshot) :
    Told store (store.publish fleet) true := by
  have next : ({ store with fleet, version := store.version + 1 } : Store).delivered < store.version + 1 :=
    Nat.lt_succ_of_le prompt
  unfold publish
  rw [notify_of_lt next]
  exact ⟨rfl, rfl, Nat.le_refl _, rfl, nofun⟩

theorem told_apply {store : Store} (prompt : store.delivered ≤ store.version) (now : UInt64) (change : Change) :
    Told store (store.apply now change).1 (change.changes store) := by
  cases changes : change.changes store with
  | true =>
      rcases apply_of_changes changes now with ⟨fleet, published⟩
      rw [published]
      exact told_publish prompt fleet
  | false =>
      rcases apply_of_not_changes changes now with ⟨migrations, same⟩
      rw [same]
      exact ⟨rfl, rfl, prompt, (List.append_nil _).symm, fun _ => rfl⟩

/-- Listeners stand in the order in which they were added, and the id that the next one gets is new. -/
structure Numbered (store : Store) : Prop where
  ordered : store.listeners.Pairwise fun first second => first.id < second.id
  fresh : ∀ listener ∈ store.listeners, listener.id < store.nextListener

theorem Numbered.subscribe {store : Store} (numbered : store.Numbered) (label : String) (fails : Failing) :
    (store.subscribe label fails).1.Numbered := by
  constructor
  · refine List.pairwise_append.2 ⟨numbered.ordered, List.pairwise_singleton _ _, fun first registered second new => ?_⟩
    obtain rfl := List.mem_singleton.1 new
    exact numbered.fresh first registered
  · intro listener member
    rcases List.mem_append.1 member with registered | new
    · exact Nat.lt_succ_of_lt (numbered.fresh listener registered)
    · obtain rfl := List.mem_singleton.1 new
      exact Nat.lt_succ_self _

theorem Numbered.unsubscribe {store : Store} (numbered : store.Numbered) (id : Nat) : (store.unsubscribe id).Numbered where
  ordered := numbered.ordered.filter _
  fresh := fun listener member => numbered.fresh listener (List.mem_filter.1 member).1

namespace Attended

/-- What holds of listeners and handles at any time. -/
structure Sound (held : Attended) : Prop where
  /-- The version that was told last is not ahead. -/
  prompt : held.store.delivered ≤ held.store.version
  /-- Listeners stand in the order in which they were added. -/
  ordered : held.store.listeners.Pairwise fun first second => first.id < second.id
  /-- The id that the next listener gets is new. -/
  fresh : ∀ listener ∈ held.store.listeners, listener.id < held.store.nextListener
  handles : ∀ handle ∈ held.handles, handle < held.store.nextListener
  deliveries : ∀ delivery ∈ held.store.deliveries, delivery.listener.id < held.store.nextListener

theorem sound_start (capacity : Nat) : (start capacity).Sound :=
  ⟨Nat.le_refl _, .nil, nofun, nofun, nofun⟩

variable {held : Attended}

theorem deliveries_attend (sound : held.Sound) (now : UInt64) (step : Step) :
    (attend held now step).1.store.deliveries =
      held.store.deliveries ++
        if step.changes held.store then
          held.store.listeners.map
            (Listener.told (attend held now step).1.store.version (attend held now step).1.store.fleet)
        else [] := by
  have silent : held.store.deliveries = held.store.deliveries ++ [] := (List.append_nil _).symm
  cases step with
  | change given => exact (told_apply sound.prompt now given).deliveries
  | unsubscribe handle =>
      change (held.remove handle).store.deliveries = held.store.deliveries ++ []
      unfold remove
      split <;> exact silent
  | ask | subscribe | letGo => exact silent

theorem fleet_attend (sound : held.Sound) (now : UInt64) {step : Step} (same : step.changes held.store = false) :
    (attend held now step).1.store.fleet = held.store.fleet := by
  cases step with
  | change given => exact (told_apply sound.prompt now given).fleet same
  | unsubscribe handle =>
      change (held.remove handle).store.fleet = held.store.fleet
      unfold remove
      split <;> rfl
  | ask | subscribe | letGo => rfl

theorem Sound.without (sound : held.Sound) (handle : Nat) : (held.without handle).Sound :=
  { sound with handles := fun other member => sound.handles other (List.mem_filter.1 member).1 }

theorem Sound.apply (sound : held.Sound) (now : UInt64) (change : Change) :
    Sound ⟨(held.store.apply now change).1, held.handles⟩ := by
  have told := told_apply sound.prompt now change
  refine ⟨told.prompt, told.listeners ▸ sound.ordered, ?_, told.nextListener ▸ sound.handles, ?_⟩
  · change ∀ listener ∈ (held.store.apply now change).1.listeners, _ < (held.store.apply now change).1.nextListener
    rw [told.listeners, told.nextListener]
    exact sound.fresh
  · change ∀ delivery ∈ (held.store.apply now change).1.deliveries, _ < (held.store.apply now change).1.nextListener
    rw [told.deliveries, told.nextListener]
    intro delivery member
    rcases List.mem_append.1 member with before | new
    · exact sound.deliveries delivery before
    · split at new
      · rcases List.mem_map.1 new with ⟨listener, registered, rfl⟩
        exact sound.fresh listener registered
      · cases new

theorem Sound.numbered (sound : held.Sound) : held.store.Numbered :=
  ⟨sound.ordered, sound.fresh⟩

theorem Sound.subscribe (sound : held.Sound) (label : String) (fails : Failing) :
    Sound ⟨(held.store.subscribe label fails).1, held.handles ++ [held.store.nextListener]⟩ := by
  have later {id : Nat} (issued : id < held.store.nextListener) : id < held.store.nextListener + 1 :=
    Nat.lt_succ_of_lt issued
  have numbered := sound.numbered.subscribe label fails
  refine ⟨sound.prompt, numbered.ordered, numbered.fresh, ?_, fun delivery member => later (sound.deliveries delivery member)⟩
  intro handle member
  rcases List.mem_append.1 member with before | new
  · exact later (sound.handles handle before)
  · obtain rfl := List.mem_singleton.1 new
    exact Nat.lt_succ_self _

theorem Sound.remove (sound : held.Sound) (handle : Nat) : (held.remove handle).Sound := by
  unfold Attended.remove
  split
  · have numbered := sound.numbered.unsubscribe handle
    have removed : Sound { held with store := held.store.unsubscribe handle } :=
      { sound with
        ordered := numbered.ordered
        fresh := numbered.fresh }
    exact removed.without handle
  · exact sound

theorem sound_attend (sound : held.Sound) (now : UInt64) (step : Step) : (attend held now step).1.Sound := by
  cases step with
  | change given => exact sound.apply now given
  | ask question => exact sound
  | subscribe label fails => exact sound.subscribe label fails
  | unsubscribe handle => exact sound.remove handle
  | letGo handle => exact sound.without handle

theorem sound_run (sound : held.Sound) (steps : List (UInt64 × Step)) : (Machine.run attend held steps).1.Sound :=
  Machine.run_keeps Sound (fun _ now step given => sound_attend given now step) sound steps

/-! ## Who is registered -/

theorem nextListener_remove (held : Attended) (handle : Nat) :
    (held.remove handle).store.nextListener = held.store.nextListener := by
  unfold remove
  split <;> rfl

theorem nextListener_attend (sound : held.Sound) (now : UInt64) (step : Step) :
    (attend held now step).1.store.nextListener = held.store.nextListener + subscriptions [(now, step)] := by
  cases step with
  | change given => exact (told_apply sound.prompt now given).nextListener
  | unsubscribe handle => exact nextListener_remove held handle
  | subscribe label fails => rfl
  | ask | letGo => rfl

theorem subscriptions_cons (step : UInt64 × Step) (rest : List (UInt64 × Step)) :
    subscriptions (step :: rest) = subscriptions [step] + subscriptions rest := by
  unfold subscriptions
  rw [← List.singleton_append, List.countP_append]

theorem nextListener_run (sound : held.Sound) (history : List (UInt64 × Step)) :
    (Machine.run attend held history).1.store.nextListener = held.store.nextListener + subscriptions history := by
  induction history generalizing held with
  | nil => rfl
  | cons step rest inductionHypothesis =>
      rcases step with ⟨now, step⟩
      rw [Machine.run_cons, inductionHypothesis (sound_attend sound now step), nextListener_attend sound,
        subscriptions_cons (now, step) rest, Nat.add_assoc]

theorem mem_listeners_of_remove {handle : Nat} {listener : Listener}
    (registered : listener ∈ (held.remove handle).store.listeners) : listener ∈ held.store.listeners := by
  unfold remove at registered
  split at registered
  · exact (List.mem_filter.1 registered).1
  · exact registered

/-- Nobody is registered but who was before and who was added just now. -/
theorem mem_attend (sound : held.Sound) {now : UInt64} {step : Step} {listener : Listener}
    (registered : listener ∈ (attend held now step).1.store.listeners) :
    listener ∈ held.store.listeners ∨
      step = .subscribe listener.label listener.fails ∧ listener.id = held.store.nextListener := by
  cases step with
  | change given => exact .inl ((told_apply sound.prompt now given).listeners ▸ registered)
  | subscribe label fails =>
      rcases List.mem_append.1 registered with before | new
      · exact .inl before
      · obtain rfl := List.mem_singleton.1 new
        exact .inr ⟨rfl, rfl⟩
  | unsubscribe handle => exact .inl (mem_listeners_of_remove registered)
  | ask | letGo => exact .inl registered

theorem mem_remove {handle : Nat} {listener : Listener} (registered : listener ∈ held.store.listeners)
    (other : handle ∈ held.handles → handle ≠ listener.id) : listener ∈ (held.remove handle).store.listeners := by
  unfold remove
  split
  · exact List.mem_filter.2 ⟨registered, by simpa using (other ‹_›).symm⟩
  · exact registered

theorem remove_of_held {handle : Nat} (own : handle ∈ held.handles) :
    held.remove handle = { held with store := held.store.unsubscribe handle }.without handle :=
  if_pos own

theorem gone_remove {handle : Nat} (own : handle ∈ held.handles) :
    ∀ listener ∈ (held.remove handle).store.listeners, listener.id ≠ handle := by
  rw [remove_of_held own]
  intro listener member
  simpa using (List.mem_filter.1 member).2

theorem mem_handles_remove {handle other : Nat} (own : other ∈ held.handles) (different : handle ≠ other) :
    other ∈ (held.remove handle).handles := by
  unfold remove
  split
  · exact List.mem_filter.2 ⟨own, by simpa using different.symm⟩
  · exact own

theorem mem_handles_of_remove {handle other : Nat} (own : other ∈ (held.remove handle).handles) :
    other ∈ held.handles := by
  unfold remove at own
  split at own
  · exact (List.mem_filter.1 own).1
  · exact own

/-- A listener that cannot be removed, or is not removed in what follows, is there after each step. -/
theorem kept_attend (sound : held.Sound) {listener : Listener} (registered : listener ∈ held.store.listeners)
    {now : UInt64} {step : Step} {rest : List (UInt64 × Step)}
    (kept : listener.id ∈ held.handles → Stays listener.id ((now, step) :: rest)) :
    listener ∈ (attend held now step).1.store.listeners ∧
      (listener.id ∈ (attend held now step).1.handles → Stays listener.id rest) := by
  cases step with
  | change given => exact ⟨(told_apply sound.prompt now given).listeners ▸ registered, kept⟩
  | ask question => exact ⟨registered, kept⟩
  | subscribe label fails =>
      refine ⟨List.mem_append_left _ registered, fun handle => ?_⟩
      rcases List.mem_append.1 handle with own | new
      · exact kept own
      · exact absurd (sound.fresh listener registered) (List.mem_singleton.1 new ▸ Nat.lt_irrefl _)
  | unsubscribe handle =>
      refine ⟨mem_remove registered fun here same => ?_, fun own => (kept (mem_handles_of_remove own)).2⟩
      exact (kept (same ▸ here)).1 same
  | letGo handle =>
      refine ⟨registered, fun own => ?_⟩
      rcases List.mem_filter.1 own with ⟨own, other⟩
      exact (kept own).resolve_left fun same => by simp [same] at other

theorem mem_run_of_kept (sound : held.Sound) {listener : Listener} (registered : listener ∈ held.store.listeners)
    {steps : List (UInt64 × Step)} (kept : listener.id ∈ held.handles → Stays listener.id steps) :
    listener ∈ (Machine.run attend held steps).1.store.listeners := by
  induction steps generalizing held with
  | nil => exact registered
  | cons step rest inductionHypothesis =>
      rcases kept_attend sound registered kept with ⟨stillRegistered, stillKept⟩
      exact inductionHypothesis (sound_attend sound _ _) stillRegistered stillKept

/-- Ids are not given again: a listener that was removed does not come back. -/
theorem gone_run (sound : held.Sound) {id : Nat} (issued : id < held.store.nextListener)
    (gone : ∀ listener ∈ held.store.listeners, listener.id ≠ id) (steps : List (UInt64 × Step)) :
    ∀ listener ∈ (Machine.run attend held steps).1.store.listeners, listener.id ≠ id := by
  induction steps generalizing held with
  | nil => exact gone
  | cons step rest inductionHypothesis =>
      rcases step with ⟨now, step⟩
      have stillIssued : id < (attend held now step).1.store.nextListener := by
        rw [nextListener_attend sound]
        exact Nat.lt_of_lt_of_le issued (Nat.le_add_right _ _)
      refine inductionHypothesis (sound_attend sound now step) stillIssued fun listener registered => ?_
      rcases mem_attend sound registered with before | ⟨_, new⟩
      · exact gone listener before
      · rw [new]
        exact (Nat.ne_of_lt issued).symm

/-- A listener whose handle is held is there in the end exactly if it is not removed. -/
theorem mem_run_iff (sound : held.Sound) {listener : Listener} (registered : listener ∈ held.store.listeners)
    (handle : listener.id ∈ held.handles) (steps : List (UInt64 × Step)) :
    listener ∈ (Machine.run attend held steps).1.store.listeners ↔ Stays listener.id steps := by
  refine ⟨fun remains => ?_, fun stays => mem_run_of_kept sound registered fun _ => stays⟩
  induction steps generalizing held with
  | nil => trivial
  | cons step rest inductionHypothesis =>
      rcases step with ⟨now, step⟩
      have nextSound := sound_attend sound now step
      cases step with
      | change given =>
          have told := told_apply sound.prompt now given
          exact inductionHypothesis nextSound (told.listeners ▸ registered) handle remains
      | ask question => exact inductionHypothesis nextSound registered handle remains
      | subscribe label fails =>
          have stillHeld : listener.id ∈ held.handles ++ [held.store.nextListener] := List.mem_append_left _ handle
          exact inductionHypothesis nextSound (List.mem_append_left _ registered) stillHeld remains
      | unsubscribe other =>
          by_cases same : other = listener.id
          · have issued := sound.handles listener.id handle
            rw [← nextListener_remove held other] at issued
            have gone : ∀ left ∈ (held.remove other).store.listeners, left.id ≠ listener.id :=
              same ▸ gone_remove (same ▸ handle)
            exact absurd rfl (gone_run nextSound issued gone rest listener remains)
          · refine ⟨same, inductionHypothesis nextSound (mem_remove registered fun _ => same) ?_ remains⟩
            exact mem_handles_remove handle same
      | letGo other =>
          by_cases same : other = listener.id
          · exact .inl same
          · refine .inr (inductionHypothesis nextSound registered ?_ remains)
            exact List.mem_filter.2 ⟨handle, by simpa using Ne.symm same⟩

theorem exists_subscribe_of_mem (sound : held.Sound) {history : List (UInt64 × Step)} {listener : Listener}
    (registered : listener ∈ (Machine.run attend held history).1.store.listeners) :
    listener ∈ held.store.listeners ∨
      ∃ before time after, history = before ++ (time, .subscribe listener.label listener.fails) :: after ∧
        listener.id = held.store.nextListener + subscriptions before := by
  induction history generalizing held with
  | nil => exact .inl registered
  | cons step rest inductionHypothesis =>
      rcases step with ⟨now, step⟩
      have nextSound := sound_attend sound now step
      rcases inductionHypothesis nextSound registered with before | ⟨before, time, after, rfl, added⟩
      · rcases mem_attend sound before with earlier | ⟨rfl, new⟩
        · exact .inl earlier
        · exact .inr ⟨[], now, rest, rfl, new⟩
      · refine .inr ⟨(now, step) :: before, time, after, rfl, ?_⟩
        rw [added, nextListener_attend sound, subscriptions_cons (now, step) before, Nat.add_assoc]

/-- When a listener is added it is registered, and its handle is held. -/
theorem registered_subscribe (capacity : Nat) (before : List (UInt64 × Step)) (time : UInt64) {listener : Listener}
    (added : listener.id = subscriptions before) :
    let held := (attend (Machine.run attend (start capacity) before).1 time
      (.subscribe listener.label listener.fails)).1
    held.Sound ∧ listener ∈ held.store.listeners ∧ listener.id ∈ held.handles := by
  intro held
  have sound := sound_run (sound_start capacity) before
  have next : (Machine.run attend (start capacity) before).1.store.nextListener = listener.id := by
    rw [nextListener_run (sound_start capacity), added]
    exact Nat.zero_add _
  refine ⟨sound_attend sound _ _, List.mem_append_right _ ?_, List.mem_append_right _ ?_⟩
  · rw [next]
    exact List.mem_singleton_self listener
  · rw [next]
    exact List.mem_singleton_self listener.id

/-- The listeners of a store are those that were added and not removed since. -/
theorem mem_listeners_iff (capacity : Nat) (history : List (UInt64 × Step)) (listener : Listener) :
    listener ∈ (Machine.run attend (start capacity) history).1.store.listeners ↔
      ∃ before time after, history = before ++ (time, .subscribe listener.label listener.fails) :: after ∧
        listener.id = subscriptions before ∧ Stays listener.id after := by
  constructor
  · intro registered
    rcases exists_subscribe_of_mem (sound_start capacity) registered with none | ⟨before, time, after, rfl, added⟩
    · cases none
    · have first : listener.id = subscriptions before := added.trans (Nat.zero_add _)
      rcases registered_subscribe capacity before time first with ⟨sound, own, handle⟩
      rw [Machine.run_through, mem_run_iff sound own handle] at registered
      exact ⟨before, time, after, rfl, first, registered⟩
  · rintro ⟨before, time, after, rfl, first, stays⟩
    rcases registered_subscribe capacity before time first with ⟨sound, own, handle⟩
    rw [Machine.run_through, mem_run_iff sound own handle]
    exact stays

end Attended

end Store
end Fleet
