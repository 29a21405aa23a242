import Fleet.Proofs.Run
import Fleet.Store.Basic

namespace Fleet

/-- A migration as it is logged: one that leaves its time open happened when it was reported. -/
def MigrationEvent.stamped (now : UInt64) (event : MigrationEvent) : MigrationEvent :=
  { event with timestamp := if event.timestamp = 0 then now else event.timestamp }

/-- A gateway as it is stored: one that leaves its time open was seen when it was reported. -/
def Gateway.stamped (now : UInt64) (gateway : Gateway) : Gateway :=
  { gateway with lastUpdated := some (gateway.lastUpdated.getD now) }

namespace Store

/-!
# What is asked of a store

Everything that may be asked of a store, as one kind of input, so that a history of a store is a list.
Changes come from agents and administrators; questions and listeners leave the fleet alone.  Every
operation happens at a time of its own, which only some of them look at.
-/

/-- What is reported to a store. -/
inductive Change where
  | update (id : String) (report : Json)
  | register (id : String)
  | setConnection (id : String) (connected : Bool)
  | recordMigration (id : String) (event : MigrationEvent)
  | updateGateway (gateway : Gateway)

/-- What is asked of a store without changing it. -/
inductive Question where
  | node (id : String)
  | connection (id : String)
  | bundles (id : String)
  | history (id : String)
  | fleet
  | stats

/-- What is asked of a store. -/
inductive Operation where
  | change (change : Change)
  | ask (question : Question)
  | subscribe (label : String) (fails : Failing)
  | unsubscribe (listener : Nat)

/-- What a store answers. -/
inductive Answer where
  | done
  | unknownNode
  | warnings (warnings : List ShapeWarning)
  | listener (id : Nat)
  | node (node : Node)
  | connection (connected : Bool)
  | bundles (bundles : List Bundle)
  | history (log : List MigrationEvent)
  | fleet (fleet : Snapshot)
  | stats (stats : Stats)

/-- The answer to a question about a node that may not be known. -/
def Answer.ofLookup {α : Type} (answer : α → Answer) : Option α → Answer
  | some value => answer value
  | none => unknownNode

/-- Make a change. -/
def apply : Machine Store Change Answer
  | store, now, .update id report =>
      let (store, warnings) := store.update now id report
      (store, .warnings warnings)
  | store, _, .register id => (store.register id, .done)
  | store, _, .setConnection id connected => (store.setConnection id connected, .done)
  | store, now, .recordMigration id event =>
      match store.recordMigration now id event with
      | some store => (store, .done)
      | none => (store, .unknownNode)
  | store, now, .updateGateway gateway => (store.updateGateway now gateway, .done)

/-- Answer a question. -/
def answer (store : Store) : Question → Answer
  | .node id => .ofLookup .node (store.node? id)
  | .connection id => .ofLookup .connection (store.connection? id)
  | .bundles id => .ofLookup .bundles (store.bundles? id)
  | .history id => .ofLookup .history (store.history? id)
  | .fleet => .fleet store.fleet
  | .stats => .stats store.stats

/-- Do what is asked. -/
def perform : Machine Store Operation Answer
  | store, now, .change change => store.apply now change
  | store, _, .ask question => (store, store.answer question)
  | store, _, .subscribe label fails =>
      let (store, id) := store.subscribe label fails
      (store, .listener id)
  | store, _, .unsubscribe listener => (store.unsubscribe listener, .done)

/-! ## What listeners are told -/

/-- A call counts whether the listener fails or not. -/
theorem call_eq (version : Nat) (snapshot : Snapshot) (listener : Listener) (deliveries : List Delivery) :
    ((listener.call version snapshot).run.run deliveries).2 = deliveries ++ [listener.told version snapshot] := by
  unfold Listener.call
  cases listener.fails version <;> rfl

/-- Whether a listener fails makes no difference to the calls after it. -/
theorem callAll_eq (version : Nat) (snapshot : Snapshot) (listeners : List Listener) (deliveries : List Delivery) :
    (Listener.callAll version snapshot listeners).run deliveries =
      ((), deliveries ++ listeners.map (Listener.told version snapshot)) := by
  induction listeners generalizing deliveries with
  | nil => exact congrArg (Prod.mk ()) (List.append_nil deliveries).symm
  | cons listener rest inductionHypothesis =>
      have called : (Listener.callAll version snapshot (listener :: rest)).run deliveries =
          (Listener.callAll version snapshot rest).run
            ((listener.call version snapshot).run.run deliveries).2 := rfl
      rw [called, call_eq, inductionHypothesis, List.append_assoc, List.map_cons, List.singleton_append]

theorem notify_of_le {store : Store} {version : Nat} (late : version ≤ store.delivered) (snapshot : Snapshot) :
    store.notify version snapshot = store :=
  if_pos late

theorem notify_of_lt {store : Store} {version : Nat} (later : store.delivered < version) (snapshot : Snapshot) :
    store.notify version snapshot =
      { store with
        delivered := version
        deliveries :=
          store.deliveries ++ store.listeners.map (Listener.told version snapshot) } := by
  unfold notify
  rw [if_neg (Nat.not_le.2 later), callAll_eq]

/-! ## What publishing leaves alone -/

@[simp] theorem notify_fleet (store : Store) (version : Nat) (snapshot : Snapshot) :
    (store.notify version snapshot).fleet = store.fleet := by
  unfold notify
  split <;> rfl

@[simp] theorem notify_migrations (store : Store) (version : Nat) (snapshot : Snapshot) :
    (store.notify version snapshot).migrations = store.migrations := by
  unfold notify
  split <;> rfl

@[simp] theorem notify_capacity (store : Store) (version : Nat) (snapshot : Snapshot) :
    (store.notify version snapshot).capacity = store.capacity := by
  unfold notify
  split <;> rfl

@[simp] theorem publish_fleet (store : Store) (fleet : Snapshot) : (store.publish fleet).fleet = fleet := by
  simp [publish]

@[simp] theorem publish_migrations (store : Store) (fleet : Snapshot) :
    (store.publish fleet).migrations = store.migrations := by
  simp [publish]

@[simp] theorem publish_capacity (store : Store) (fleet : Snapshot) :
    (store.publish fleet).capacity = store.capacity := by
  simp [publish]

/-! ## What becomes of the fleet -/

theorem update_fleet (store : Store) (now : UInt64) (id : String) (report : Json) :
    (store.update now id report).1.fleet =
      (store.fleet.setNode id ((store.fleet.node id).receive now (Report.read report).1)).reconcile :=
  publish_fleet store _

theorem register_fleet (store : Store) (id : String) :
    (store.register id).fleet =
      if store.knows id then store.fleet else store.fleet.setNode id .unknown := by
  unfold register
  split
  · rfl
  · exact publish_fleet store _

/-- Nothing happens to the connection of a known node that is as it should be already. -/
theorem setConnection_fleet (store : Store) (id : String) (connected : Bool) :
    (store.setConnection id connected).fleet =
      if store.knows id && (store.fleet.node id).connected == connected then store.fleet
      else (store.fleet.setNode id { store.fleet.node id with connected := connected }).reconcile := by
  by_cases same : (store.knows id && (store.fleet.node id).connected == connected) = true
  · rw [if_pos same]
    exact congrArg fleet (if_pos same)
  · rw [if_neg same]
    exact (congrArg fleet (if_neg same)).trans (publish_fleet store _)

theorem updateGateway_fleet (store : Store) (now : UInt64) (gateway : Gateway) :
    (store.updateGateway now gateway).fleet = { store.fleet with gateway := gateway.stamped now } :=
  publish_fleet store _

/-- The log of a node after a migration that was accepted. -/
def logged (store : Store) (now : UInt64) (id : String) (event : MigrationEvent) : List MigrationEvent :=
  (event.stamped now :: (store.migrations.get? id).getD []).take store.capacity

/-- A migration is logged for a known node, and nothing else happens; for another node nothing happens. -/
theorem apply_recordMigration (store : Store) (now : UInt64) (id : String) (event : MigrationEvent) :
    store.apply now (.recordMigration id event) =
      if store.knows id then
        ({ store with migrations := store.migrations.insert id (store.logged now id event) }, .done)
      else (store, .unknownNode) := by
  by_cases known : store.knows id = true
  · simp only [apply, recordMigration, if_pos known]
    rfl
  · simp only [apply, recordMigration, if_neg known]

theorem apply_recordMigration_fleet (store : Store) (now : UInt64) (id : String) (event : MigrationEvent) :
    (store.apply now (.recordMigration id event)).1.fleet = store.fleet := by
  rw [apply_recordMigration]
  split <;> rfl

end Store
end Fleet
