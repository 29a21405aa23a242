import Fleet.Proofs.Store.Part

namespace Fleet
namespace Store

/-!
# The log of a node

The store keeps the latest migrations of every node and forgets the earlier ones.  Which ones it keeps can be said
without the store: take all migrations of the node that were accepted, the last one first, and of these as many as
there is room for.  Forgetting early makes no difference, because a migration that has once been pushed out by later
ones would not be among the latest at any time after that.  All other operations leave the logs alone, and so does
every record of another node.
-/

/-- The migration of a node that an operation logs: the one that it records, if it is answered that this was done. -/
def accepted? (id : String) (now : UInt64) : Operation × Answer → Option MigrationEvent
  | (.change (.recordMigration own event), .done) => if own = id then some (event.stamped now) else none
  | _ => none

/-- The migrations of a node that were accepted in a run, in their order. -/
def accepted (id : String) (times : List UInt64) (notes : List (Operation × Answer)) : List MigrationEvent :=
  (times.zip notes).filterMap fun entry => accepted? id entry.1 entry.2

/-- What is kept of the log of a node. -/
def log (store : Store) (id : String) : List MigrationEvent :=
  (store.migrations.get? id).getD []

/-- The log of a node has the latest of its migrations, the last one first. -/
def Logs (store : Store) (id : String) (past : List MigrationEvent) : Prop :=
  store.log id = past.reverse.take store.capacity

variable {store : Store} {id : String} {past : List MigrationEvent}

/-- Of what was pushed out already nothing comes back. -/
theorem take_cons_take {α : Type} (room : Nat) (item : α) (items : List α) :
    (item :: items.take room).take room = (item :: items).take room := by
  cases room with
  | zero => rfl
  | succ room => rw [List.take_succ_cons, List.take_succ_cons, List.take_take, Nat.min_eq_left (Nat.le_succ room)]

theorem Logs.of_published {after : Store} (logs : store.Logs id past) (published : Published store after) :
    after.Logs id past := by
  unfold Logs log at logs ⊢
  rw [published.migrations_eq, published.capacity_eq]
  exact logs

/-- A migration is accepted if its node is known. -/
theorem accepted?_record (store : Store) (id : String) (now : UInt64) (own : String) (event : MigrationEvent) :
    accepted? id now (.change (.recordMigration own event), (store.apply now (.recordMigration own event)).2) =
      if store.knows own = true ∧ own = id then some (event.stamped now) else none := by
  rw [apply_recordMigration]
  by_cases known : store.knows own = true
  · simp only [known, true_and]
    rfl
  · rw [if_neg known, if_neg fun both => known both.1]
    rfl

/-- A migration that is accepted is put in front of the log of its node. -/
theorem Logs.record (logs : store.Logs id past) (now : UInt64) (own : String) (event : MigrationEvent) :
    (store.apply now (.recordMigration own event)).1.Logs id
      (past ++ (if store.knows own = true ∧ own = id then some (event.stamped now) else none).toList) := by
  rw [apply_recordMigration]
  by_cases known : store.knows own = true
  · rw [if_pos known]
    unfold Logs log at logs ⊢
    rw [Keyed.get?_insert]
    by_cases here : own = id
    · subst here
      rw [if_pos rfl, if_pos ⟨known, rfl⟩, Option.toList_some, List.reverse_append, Option.getD_some, logged, logs]
      exact take_cons_take store.capacity (event.stamped now) past.reverse
    · rw [if_neg here, if_neg fun both => here both.2, Option.toList_none, List.append_nil]
      exact logs
  · rw [if_neg known, if_neg fun both => known both.1, Option.toList_none, List.append_nil]
    exact logs

/-- One operation adds to the log of a node the migration that is accepted with it, and no other. -/
theorem Logs.step (logs : store.Logs id past) (now : UInt64) (operation : Operation) :
    (store.perform now operation).1.Logs id
      (past ++ (accepted? id now (operation, (store.perform now operation).2)).toList) := by
  have unchanged : ∀ {after : Store}, Published store after → after.Logs id (past ++ []) := fun published =>
    (List.append_nil past).symm ▸ logs.of_published published
  cases operation with
  | change change =>
      cases change with
      | update own report => exact unchanged (published_update store now own report)
      | register own => exact unchanged (published_register store own)
      | setConnection own connected => exact unchanged (published_setConnection store own connected)
      | updateGateway gateway => exact unchanged (published_updateGateway store now gateway)
      | recordMigration own event =>
          change (store.apply now (.recordMigration own event)).1.Logs id
            (past ++ (accepted? id now (.change (.recordMigration own event),
              (store.apply now (.recordMigration own event)).2)).toList)
          rw [accepted?_record]
          exact logs.record now own event
  | ask question => exact unchanged .unchanged
  | subscribe label fails => exact (List.append_nil past).symm ▸ logs
  | unsubscribe listener => exact (List.append_nil past).symm ▸ logs

theorem accepted_cons (id : String) (now : UInt64) (times : List UInt64) (note : Operation × Answer)
    (notes : List (Operation × Answer)) :
    accepted id (now :: times) (note :: notes) = (accepted? id now note).toList ++ accepted id times notes := by
  unfold accepted
  rw [List.zip_cons_cons, List.filterMap_cons]
  cases accepted? id now note <;> rfl

/-- A run adds to the log of a node the migrations that are accepted in it. -/
theorem Logs.run (logs : store.Logs id past) (history : List (UInt64 × Operation)) :
    (perform.run store history).1.Logs id
      (past ++ accepted id (history.map Prod.fst) (perform.run store history).2) := by
  induction history generalizing store past with
  | nil => exact (List.append_nil past).symm ▸ logs
  | cons step rest inductionHypothesis =>
      rcases step with ⟨now, operation⟩
      rw [Machine.run_cons, List.map_cons, accepted_cons, ← List.append_assoc]
      exact inductionHypothesis (logs.step now operation)

theorem capacity_perform (store : Store) (now : UInt64) (operation : Operation) :
    (store.perform now operation).1.capacity = store.capacity := by
  cases operation with
  | change change =>
      cases change with
      | update own report => exact (published_update store now own report).capacity_eq
      | register own => exact (published_register store own).capacity_eq
      | setConnection own connected => exact (published_setConnection store own connected).capacity_eq
      | updateGateway gateway => exact (published_updateGateway store now gateway).capacity_eq
      | recordMigration own event =>
          change (store.apply now (.recordMigration own event)).1.capacity = store.capacity
          rw [apply_recordMigration]
          split <;> rfl
  | ask question | subscribe label fails | unsubscribe listener => rfl

/-- Nothing that is asked of a store changes how many migrations are kept. -/
theorem capacity_run (capacity : Nat) (history : List (UInt64 × Operation)) :
    (perform.run (empty capacity) history).1.capacity = max capacity 1 :=
  Machine.run_keeps (fun store : Store => store.capacity = max capacity 1)
    (fun store now operation kept => (capacity_perform store now operation).trans kept) rfl history

/-- Whatever was asked of a store, the history of a known node has the latest of the migrations that were accepted for
it, the last one first, as many as there is room for and at least one.  A migration is accepted exactly if its node is
known, and otherwise nothing happens. -/
theorem history_faithful (capacity : Nat) (history : List (UInt64 × Operation)) (id : String) :
    let run := perform.run (empty capacity) history
    (run.1.knows id = true →
      run.1.history? id = some ((accepted id (history.map Prod.fst) run.2).reverse.take (max capacity 1))) ∧
    ∀ now event,
      let recorded := run.1.perform now (.change (.recordMigration id event))
      (recorded.2 = .done ↔ run.1.knows id = true) ∧
        (run.1.knows id = false → recorded = (run.1, .unknownNode)) := by
  intro run
  refine ⟨fun known => ?_, fun now event => ?_⟩
  · have nothing : (empty capacity).Logs id [] := List.take_nil.symm
    have logs : run.1.Logs id ([] ++ accepted id (history.map Prod.fst) run.2) := nothing.run history
    unfold Logs at logs
    rw [show run.1.capacity = _ from capacity_run capacity history, List.nil_append] at logs
    rcases Option.isSome_iff_exists.1 known with ⟨node, found⟩
    unfold history? node?
    rw [found, ← logs]
    rfl
  · intro recorded
    have outcome := apply_recordMigration run.1 now id event
    have same : recorded = run.1.apply now (.recordMigration id event) := rfl
    rw [same, outcome]
    cases known : run.1.knows id with
    | true => exact ⟨iff_of_true rfl rfl, fun unknown => absurd unknown.symm Bool.false_ne_true⟩
    | false => exact ⟨iff_of_false nofun Bool.false_ne_true, fun _ => rfl⟩

/-- Room for two migrations.  The first one comes too early, the time of the second is left open, and a node that is
disconnected keeps its log. -/
theorem history_faithful_room_for_two :
    let event (time : UInt64) (action : String) : MigrationEvent := ⟨time, "app", action, .pending, none⟩
    let record (id : String) (event : MigrationEvent) : Operation := .change (.recordMigration id event)
    let history : List (UInt64 × Operation) :=
      [(1, record "a" (event 0 "early")), (2, .change (.register "a")), (3, record "a" (event 0 "plan")),
        (4, record "a" (event 9 "stop")), (5, .change (.update "b" (.object []))), (6, record "b" (event 0 "plan")),
        (7, record "a" (event 0 "move")), (8, .change (.setConnection "b" false))]
    let store := (perform.run (empty 2) history).1
    store.knows "a" = true ∧ store.history? "a" = some [event 7 "move", event 9 "stop"] ∧ store.knows "c" = false ∧
      (store.perform 10 (record "c" (event 0 "plan"))).1.migrations = store.migrations := by
  intro event record history store
  have known : store.knows "a" = true := by decide +kernel
  have unknown : store.knows "c" = false := by decide +kernel
  have shown := (history_faithful 2 history "a").1 known
  have refused : store.perform 10 (record "c" (event 0 "plan")) = (store, .unknownNode) :=
    ((history_faithful 2 history "c").2 10 (event 0 "plan")).2 unknown
  have latest : (accepted "a" (history.map Prod.fst) (perform.run (empty 2) history).2).reverse.take (max 2 1) =
      [event 7 "move", event 9 "stop"] := by
    decide +kernel
  rw [latest] at shown
  refine ⟨known, shown, unknown, ?_⟩
  rw [refused]

end Store
end Fleet
