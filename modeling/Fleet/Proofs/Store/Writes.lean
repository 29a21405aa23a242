import Fleet.Proofs.Node.Retention
import Fleet.Proofs.Store.Nodes
import Fleet.Proofs.Store.Part

namespace Fleet
namespace Store

/-!
# What a write leaves alone

A report of one node reaches far.  The whole collection of nodes goes through the passes over the fleet, and the node
itself through three more.  Of the other nodes nothing but their domains is touched, and of the node itself what the
report replaces and what is derived.  The gateway, the logs and the nodes are three things apart: each is written by
operations of its own, which leave the other two alone.  And nodes only ever come in.
-/

variable {store : Store}

theorem knows_apply {id : String} (known : store.knows id = true) (now : UInt64) (change : Change) :
    (store.apply now change).1.knows id = true := by
  rw [knows_eq] at known ⊢
  cases change with
  | update own document =>
      change ((store.update now own document).1.fleet.bare? id).isSome = true
      rw [bare?_update]
      split
      · rfl
      · exact known
  | register own =>
      change ((store.register own).fleet.bare? id).isSome = true
      rw [bare?_register]
      split
      · rfl
      · exact known
  | setConnection own connected =>
      change ((store.setConnection own connected).fleet.bare? id).isSome = true
      rw [bare?_setConnection]
      split
      · rfl
      · exact known
  | recordMigration own event =>
      rw [apply_recordMigration_fleet]
      exact known
  | updateGateway gateway =>
      change ((store.updateGateway now gateway).fleet.bare? id).isSome = true
      rw [bare?_updateGateway]
      exact known

theorem knows_perform {id : String} (known : store.knows id = true) (now : UInt64) (operation : Operation) :
    (store.perform now operation).1.knows id = true := by
  cases operation with
  | change change => exact knows_apply known now change
  | ask question => exact known
  | subscribe label fails => exact known
  | unsubscribe listener => exact known

/-- A report keeps what the node had but for what it replaces. -/
theorem retains_update (store : Store) (now : UInt64) (id : String) (document : Json) :
    Node.Retains (Report.read document).1 (store.fleet.node id) ((store.update now id document).1.fleet.node id) := by
  rcases exists_node_update_self store now id document with ⟨index, updated⟩
  rw [updated]
  exact (Node.retains_receive now _ _).mapNode index

/-- What is shown of the log of a node depends on the logs, and on whether the node is known. -/
theorem history?_of_migrations {after : Store} (migrations : after.migrations = store.migrations) {id : String}
    (known : after.knows id = store.knows id) : after.history? id = store.history? id := by
  unfold knows Keyed.contains at known
  unfold history? node?
  rw [migrations]
  cases here : store.fleet.nodes.get? id <;> cases there : after.fleet.nodes.get? id <;>
    simp [here, there] at known ⊢

/-- A report of a node changes nothing of other nodes but their domains, nothing of the node itself that it does not
replace, and neither the gateway nor a log.  The gateway is replaced without anything else, a migration is logged
without any change of the fleet, and no operation ever makes a node unknown. -/
theorem writes_apart (store : Store) :
    (∀ now id document,
      let after := (store.update now id document).1
      (∀ other, other ≠ id → after.fleet.bare? other = store.fleet.bare? other) ∧
        Node.Retains (Report.read document).1 (store.fleet.node id) (after.fleet.node id) ∧
        after.fleet.gateway = store.fleet.gateway ∧ after.migrations = store.migrations ∧
        ∀ other, store.knows other = true → after.history? other = store.history? other) ∧
    (∀ now gateway,
      let after := store.updateGateway now gateway
      after.fleet = { store.fleet with gateway := gateway.stamped now } ∧ after.migrations = store.migrations ∧
        ∀ other, after.history? other = store.history? other) ∧
    (∀ now id event, (store.apply now (.recordMigration id event)).1.fleet = store.fleet) ∧
    ∀ later id, store.knows id = true → (perform.run store later).1.knows id = true := by
  refine ⟨fun now id document => ?_, fun now gateway => ?_, ?_, fun later id known => ?_⟩
  · have migrations := (published_update store now id document).migrations_eq
    refine ⟨fun other different => ?_, retains_update store now id document, update_gateway store now id document,
      migrations, fun other known => ?_⟩
    · rw [bare?_update, if_neg (Ne.symm different)]
    · have stillKnown := knows_apply known now (.update id document)
      exact history?_of_migrations migrations (stillKnown.trans known.symm)
  · have migrations := (published_updateGateway store now gateway).migrations_eq
    refine ⟨updateGateway_fleet store now gateway, migrations, fun other => history?_of_migrations migrations ?_⟩
    rw [knows_eq, knows_eq, bare?_updateGateway]
  · exact apply_recordMigration_fleet store
  · exact Machine.run_keeps (fun store : Store => store.knows id = true)
      (fun _ now operation known => knows_perform known now operation) known later

/-- A node with a volume and a container that reports its services, beside another node that has a route to it. -/
theorem writes_apart_two_nodes :
    let first : Json := .object
      [("containers", .array [.object [("id", .string "c"), ("names", Json.texts ["web"]),
          ("ports", .array [.object [("hostPort", .number (.whole 8080))]])]]),
        ("resources", .object [("network", .object [("eth0", .array [.object [("address", .string "10.0.0.5"),
          ("family", .string "IPv4")]])])]),
        ("volumes", .array [.object [("name", .string "data")]])]
    let other : Json := .object [("proxyRoutes", .array [.object
      [("host", .string "a.test"), ("targetService", .string "10.0.0.5:8080")]])]
    let second : Json := .object [("services", .array [.object [("name", .string "web.service")]])]
    let store := (perform.run (empty 5) [(1, .change (.update "a" first)), (2, .change (.update "b" other))]).1
    let after := (store.update 3 "a" second).1
    "b" ≠ "a" ∧ store.knows "b" = true ∧ after.fleet.bare? "b" = store.fleet.bare? "b" ∧
      Node.Retains (Report.read second).1 (store.fleet.node "a") (after.fleet.node "a") ∧
      after.history? "b" = store.history? "b" ∧
      (perform.run store [(3, .change (.update "a" second))]).1.knows "b" = true := by
  intro first other second store after
  have different : "b" ≠ "a" := by decide
  have known : store.knows "b" = true := by decide +kernel
  have apart := writes_apart store
  rcases apart.1 3 "a" second with ⟨others, retains, _, _, histories⟩
  exact ⟨different, known, others "b" different, retains, histories "b" known, apart.2.2.2 _ "b" known⟩

end Store
end Fleet
