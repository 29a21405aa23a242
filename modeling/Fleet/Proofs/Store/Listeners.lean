import Fleet.Proofs.Store.Attended
import Mathlib.Data.List.Nodup

namespace Fleet
namespace Store

/-!
# What listeners are told

A listener wants to know of every change, once, in the order in which the changes are made, and with the fleet as it is
then.  That this is so depends on several parts of the store.  An operation that changes the fleet must not forget to
tell, one that changes nothing must not tell anything, and the version that was told last must never run ahead, not
even after a listener failed.
-/

/-! ## What a listener sees -/

/-- The fleets that a listener was shown, in order. -/
def seen (store : Store) (id : Nat) : List Snapshot :=
  (store.deliveries.filter fun delivery => delivery.listener.id = id).map Delivery.snapshot

/-- Of the calls that tell all listeners of a fleet, one is for each of them. -/
theorem seen_once {listeners : List Listener} (ordered : listeners.Pairwise fun first second => first.id < second.id)
    {listener : Listener} (registered : listener ∈ listeners) (version : Nat) (fleet : Snapshot) :
    ((listeners.map (Listener.told version fleet)).filter fun delivery =>
      delivery.listener.id = listener.id).map Delivery.snapshot = [fleet] := by
  have alone : (listeners.filter fun other => other.id = listener.id) = [listener] := by
    rcases List.append_of_mem registered with ⟨before, after, rfl⟩
    rcases List.pairwise_append.1 ordered with ⟨_, later, lower⟩
    have noneBefore : ∀ other ∈ before, ¬ decide (other.id = listener.id) = true := by
      intro other member same
      exact absurd (of_decide_eq_true same) (Nat.ne_of_lt (lower other member listener List.mem_cons_self))
    have noneAfter : ∀ other ∈ after, ¬ decide (other.id = listener.id) = true := by
      intro other member same
      exact absurd (of_decide_eq_true same) (Nat.ne_of_gt ((List.pairwise_cons.1 later).1 other member))
    rw [List.filter_append, List.filter_eq_nil_iff.2 noneBefore, List.filter_cons, if_pos (decide_eq_true rfl),
      List.filter_eq_nil_iff.2 noneAfter, List.nil_append]
  rw [List.filter_map, List.map_map]
  exact congrArg (List.map _) alone

namespace Attended

variable {held : Attended}

/-- The fleet after each change of a run, in order. -/
def changesOf (held : Attended) : List (UInt64 × Step) → List Snapshot
  | [] => []
  | (now, step) :: rest =>
      let next := (attend held now step).1
      (if step.changes held.store then [next.store.fleet] else []) ++ next.changesOf rest

theorem seen_attend (sound : held.Sound) {listener : Listener} (registered : listener ∈ held.store.listeners)
    (now : UInt64) (step : Step) :
    (attend held now step).1.store.seen listener.id =
      held.store.seen listener.id ++
        if step.changes held.store then [(attend held now step).1.store.fleet] else [] := by
  unfold seen
  rw [deliveries_attend sound, List.filter_append, List.map_append]
  congr 1
  split
  · exact seen_once sound.ordered registered _ _
  · rfl

/-- A listener that stays sees the fleet after each change. -/
theorem seen_run (sound : held.Sound) {listener : Listener} (registered : listener ∈ held.store.listeners)
    {steps : List (UInt64 × Step)} (kept : listener.id ∈ held.handles → Stays listener.id steps) :
    (Machine.run attend held steps).1.store.seen listener.id =
      held.store.seen listener.id ++ held.changesOf steps := by
  induction steps generalizing held with
  | nil => exact (List.append_nil _).symm
  | cons step rest inductionHypothesis =>
      rcases step with ⟨now, step⟩
      rcases kept_attend sound registered kept with ⟨stillRegistered, stillKept⟩
      rw [Machine.run_cons, inductionHypothesis (sound_attend sound now step) stillRegistered stillKept,
        seen_attend sound registered, List.append_assoc]
      rfl

/-- A listener that is new has seen nothing. -/
theorem seen_of_fresh (sound : held.Sound) {id : Nat} (fresh : held.store.nextListener ≤ id) :
    held.store.seen id = [] := by
  unfold seen
  rw [List.map_eq_nil_iff, List.filter_eq_nil_iff]
  intro delivery told same
  have issued := sound.deliveries delivery told
  have own : delivery.listener.id = id := of_decide_eq_true same
  omega

end Attended

/-! ## Listeners that fail -/

/-- The same listener, if it never failed. -/
def calmed (listener : Listener) : Listener :=
  { listener with fails := false }

/-- The same call, if the listener had not failed. -/
def calmedCall (delivery : Delivery) : Delivery :=
  { delivery with listener := { delivery.listener with fails := false } }

/-- The same store, if no listener had ever failed. -/
def calm (store : Store) : Store :=
  { store with
    listeners := store.listeners.map calmed
    deliveries := store.deliveries.map calmedCall }

/-- The same step, if listeners never failed. -/
def Step.calm : Step → Step
  | .subscribe label _ => .subscribe label false
  | step => step

theorem notify_calm (store : Store) (version : Nat) (snapshot : Snapshot) :
    store.calm.notify version snapshot = (store.notify version snapshot).calm := by
  by_cases late : version ≤ store.delivered
  · have lateCalm : version ≤ store.calm.delivered := late
    rw [notify_of_le late, notify_of_le lateCalm]
  · have later : store.delivered < version := Nat.lt_of_not_le late
    have laterCalm : store.calm.delivered < version := later
    rw [notify_of_lt later, notify_of_lt laterCalm]
    unfold calm
    simp only [List.map_append, List.map_map]
    rfl

theorem publish_calm (store : Store) (fleet : Snapshot) : store.calm.publish fleet = (store.publish fleet).calm :=
  notify_calm { store with fleet, version := store.version + 1 } (store.version + 1) fleet

theorem apply_calm (store : Store) (now : UInt64) (change : Change) :
    store.calm.apply now change = ((store.apply now change).1.calm, (store.apply now change).2) := by
  cases change with
  | update id report => exact Prod.ext (publish_calm store _) rfl
  | register id =>
      refine Prod.ext ?_ rfl
      by_cases known : store.knows id = true
      · exact (if_pos known).trans (congrArg calm (if_pos known).symm)
      · exact ((if_neg known).trans (publish_calm store _)).trans (congrArg calm (if_neg known).symm)
  | setConnection id connected =>
      refine Prod.ext ?_ rfl
      by_cases same : (store.knows id && (store.fleet.node id).connected == connected) = true
      · exact (if_pos same).trans (congrArg calm (if_pos same).symm)
      · exact ((if_neg same).trans (publish_calm store _)).trans (congrArg calm (if_neg same).symm)
  | recordMigration id event =>
      have known : store.calm.knows id = store.knows id := rfl
      rw [apply_recordMigration, apply_recordMigration, known]
      split <;> rfl
  | updateGateway gateway => exact Prod.ext (publish_calm store _) rfl

theorem answer_calm (store : Store) (question : Question) : store.calm.answer question = store.answer question := by
  cases question with
  | stats =>
      unfold answer stats calm
      simp only [List.length_map]
  | node | connection | bundles | history | fleet => rfl

namespace Attended

/-- The same store and handles, if no listener had ever failed. -/
def calm (held : Attended) : Attended :=
  { held with store := held.store.calm }

theorem remove_calm (held : Attended) (handle : Nat) : held.calm.remove handle = (held.remove handle).calm := by
  have removed : held.store.calm.unsubscribe handle = (held.store.unsubscribe handle).calm := by
    unfold unsubscribe Store.calm
    rw [List.filter_map]
    rfl
  by_cases own : handle ∈ held.handles
  · have calmOwn : handle ∈ held.calm.handles := own
    rw [remove_of_held own, remove_of_held calmOwn]
    exact congrArg (fun store => without ⟨store, held.handles⟩ handle) removed
  · exact (if_neg own).trans (congrArg calm (if_neg own).symm)

/-- Whether listeners fail makes no difference to a step. -/
theorem attend_calm (held : Attended) (now : UInt64) (step : Step) :
    attend held.calm now step.calm = ((attend held now step).1.calm, (attend held now step).2) := by
  cases step with
  | change given =>
      have same := apply_calm held.store now given
      have store := congrArg Prod.fst same
      have answer := congrArg Prod.snd same
      exact Prod.ext (congrArg (Attended.mk · held.handles) store) answer
  | ask question => exact Prod.ext rfl (answer_calm held.store question)
  | subscribe label fails =>
      refine Prod.ext ?_ rfl
      simp only [attend, Step.calm, calm, subscribe, Store.calm, List.map_append]
      rfl
  | unsubscribe handle => exact Prod.ext (remove_calm held handle) rfl
  | letGo handle => rfl

/-- Whether listeners fail makes no difference to the store, to any answer, or to the calls of any listener. -/
theorem run_calm (held : Attended) (history : List (UInt64 × Step)) :
    Machine.run attend held.calm (history.map fun step => (step.1, step.2.calm)) =
      ((Machine.run attend held history).1.calm,
        (Machine.run attend held history).2.map fun note => (note.1.calm, note.2)) := by
  induction history generalizing held with
  | nil => rfl
  | cons step rest inductionHypothesis =>
      rcases step with ⟨now, step⟩
      rw [List.map_cons, Machine.run_cons, Machine.run_cons, attend_calm, inductionHypothesis]
      rfl

/-- After any history, every step that changes the fleet is told to each listener that is registered, once and in the
order in which they were added, with the fleet as it is after the step; any other step is told to nobody and leaves
the fleet as it was.  Registered are those who were added and not removed since, and who lets the handle go cannot be
removed any more.  So what a listener has seen since it was added is the fleet after each change.  Had no listener ever
failed, everything else would be the same: what the store holds, what it answers, and every call of every listener. -/
theorem listeners_see_every_change (capacity : Nat) (history : List (UInt64 × Step)) (now : UInt64) (step : Step) :
    let run := Machine.run attend (start capacity)
    let held := (run history).1
    let next := (attend held now step).1
    (next.store.deliveries =
        held.store.deliveries ++
          if step.changes held.store then
            held.store.listeners.map (Listener.told next.store.version next.store.fleet)
          else []) ∧
      (step.changes held.store = false → next.store.fleet = held.store.fleet) ∧
      (held.store.listeners.Pairwise fun first second => first.id < second.id) ∧
      (∀ listener, listener ∈ held.store.listeners ↔
        ∃ before time after, history = before ++ (time, .subscribe listener.label listener.fails) :: after ∧
          listener.id = subscriptions before ∧ Stays listener.id after) ∧
      (∀ before time label fails after, history = before ++ (time, .subscribe label fails) :: after →
        Stays (subscriptions before) after →
          held.store.seen (subscriptions before) =
            (attend (run before).1 time (.subscribe label fails)).1.changesOf after) ∧
      run (history.map fun step => (step.1, step.2.calm)) =
        (held.calm, (run history).2.map fun note => (note.1.calm, note.2)) := by
  intro run held next
  have sound : held.Sound := sound_run (sound_start capacity) history
  refine ⟨deliveries_attend sound now step, fleet_attend sound now, sound.ordered,
    mem_listeners_iff capacity history, ?_, run_calm (start capacity) history⟩
  rintro before time label fails after rfl stays
  let listener : Listener := ⟨subscriptions before, label, fails⟩
  rcases registered_subscribe capacity before time (rfl : listener.id = subscriptions before) with
    ⟨nextSound, registered, _⟩
  have earlier : (run before).1.Sound := sound_run (sound_start capacity) before
  have fresh : (run before).1.store.nextListener ≤ subscriptions before :=
    Nat.le_of_eq ((nextListener_run (sound_start capacity) before).trans (Nat.zero_add _))
  -- Adding the listener told it nothing, so all it has seen comes from what followed.
  have nothing : (attend (run before).1 time (.subscribe label fails)).1.store.seen listener.id = [] :=
    seen_of_fresh earlier fresh
  have seen := seen_run nextSound registered fun _ => stays
  rw [← Machine.run_through, nothing] at seen
  exact seen

/-- A listener that fails when it is told of the first version, whose handle is let go, and one that is removed, while a
node is registered and connected. -/
theorem listeners_see_every_change_failing_listener :
    let first : Listener := ⟨0, "first", fun version => version == 1⟩
    let history : List (UInt64 × Step) :=
      [(1, .subscribe first.label first.fails), (2, .subscribe "second" false), (3, .change (.register "a")),
        (4, .letGo 0), (5, .unsubscribe 1), (6, .unsubscribe 0)]
    let held := (Machine.run attend (start 5) history).1
    let connected := (attend held 7 (.change (.setConnection "a" true))).1
    held.store.listeners = [first] ∧
      (held.store.deliveries.map fun delivery => (delivery.listener, delivery.version)) =
        [(⟨0, "first", true⟩, 1), (⟨1, "second", false⟩, 1)] ∧
      connected.store.deliveries = held.store.deliveries ++ [⟨⟨0, "first", false⟩, 2, connected.store.fleet⟩] ∧
      (attend held 8 (.change (.register "a"))).1.store.deliveries = held.store.deliveries ∧
      (held.store.seen 0).length = 1 := by
  intro first history held connected
  have ofHistory := listeners_see_every_change 5 history
  have listeners : held.store.listeners = [first] := rfl
  have version : connected.store.version = 2 := by decide +kernel
  have news : Step.changes held.store (.change (.setConnection "a" true)) = true := by decide +kernel
  have noNews : Step.changes held.store (.change (.register "a")) = false := by decide +kernel
  have connection : connected.store.deliveries =
      held.store.deliveries ++ if Step.changes held.store (.change (.setConnection "a" true)) then
        held.store.listeners.map (Listener.told connected.store.version connected.store.fleet) else [] :=
    (ofHistory 7 (.change (.setConnection "a" true))).1
  have registration := (ofHistory 8 (.change (.register "a"))).1
  rw [if_pos news, listeners, version] at connection
  rw [noNews, if_neg Bool.false_ne_true, List.append_nil] at registration
  exact ⟨listeners, by decide +kernel +zetaReduce, connection, registration, by decide +kernel +zetaReduce⟩

end Attended
end Store
end Fleet
