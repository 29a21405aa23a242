import Fleet.Proofs.Keyed
import Fleet.Proofs.Node.Domains
import Fleet.Proofs.Store.Operation

namespace Fleet

/-!
# What a store holds of one node

The domains aside, every change of a node reads and writes that node alone.  The route table and the
domains are rewritten at every report, for all nodes at once, and this is the only way in which nodes meet
in a store.  So a store is described here by what it holds under every id without the domains, one
equation for each change: what becomes of the node itself, and that all others stay as they are.
-/

namespace Node

/-- A node without the time of its last report. -/
def timeless (node : Node) : Node :=
  { node with lastSync := 0 }

/-- A report does the same whenever it arrives, but for the time itself. -/
theorem timeless_receive (now : UInt64) (report : Report) (node : Node) :
    (node.receive now report).timeless = (node.timeless.receive 0 report).timeless := rfl

theorem timeless_withoutDomains (node : Node) :
    node.withoutDomains.timeless = node.timeless.withoutDomains := rfl

theorem timeless_mapNode (index : Domain.Index) (node : Node) :
    (Domain.mapNode index node).timeless = Domain.mapNode index node.timeless := rfl

end Node

namespace Snapshot

/-- What is known of a node without the domains of the fleet. -/
def bare? (fleet : Snapshot) (id : String) : Option Node :=
  (fleet.nodes.get? id).map Node.withoutDomains

/-- The node of an id without the domains of the fleet, whether it is known or not. -/
def bare (fleet : Snapshot) (id : String) : Node :=
  (fleet.bare? id).getD .unknown

theorem withoutDomains_node (fleet : Snapshot) (id : String) :
    (fleet.node id).withoutDomains = fleet.bare id := by
  unfold node bare bare?
  cases fleet.nodes.get? id <;> rfl

@[simp] theorem bare?_reconcile (fleet : Snapshot) (id : String) :
    fleet.reconcile.bare? id = fleet.bare? id := by
  unfold bare? reconcile Domain.mapNodes
  rw [Keyed.get?_mapValues, Option.map_map]
  congr 1
  funext node
  exact Node.withoutDomains_mapNode _ node

theorem bare?_setNode (fleet : Snapshot) (id other : String) (node : Node) :
    (fleet.setNode id node).bare? other =
      if id = other then some node.withoutDomains else fleet.bare? other := by
  unfold bare? setNode
  rw [Keyed.get?_insert]
  split <;> rfl

end Snapshot

namespace Store

theorem knows_eq (store : Store) (id : String) : store.knows id = (store.fleet.bare? id).isSome := by
  unfold knows Keyed.contains Snapshot.bare?
  rw [Option.isSome_map]

/-! ## Nodes after a change -/

theorem bare?_update (store : Store) (now : UInt64) (id other : String) (report : Json) :
    (store.update now id report).1.fleet.bare? other =
      if id = other then
        some ((store.fleet.bare id).receive now (Report.read report).1).withoutDomains
      else store.fleet.bare? other := by
  rw [update_fleet, Snapshot.bare?_reconcile, Snapshot.bare?_setNode, ← Snapshot.withoutDomains_node,
    Node.receive_withoutDomains]

theorem bare?_register (store : Store) (id other : String) :
    (store.register id).fleet.bare? other =
      if id = other then some (store.fleet.bare id) else store.fleet.bare? other := by
  rw [register_fleet, knows_eq]
  by_cases same : id = other
  · subst same
    rw [if_pos rfl]
    unfold Snapshot.bare
    cases known : store.fleet.bare? id with
    | none =>
        rw [Option.isSome_none, if_neg Bool.false_ne_true, Snapshot.bare?_setNode, if_pos rfl]
        rfl
    | some node =>
        rw [Option.isSome_some, if_pos rfl, known]
        rfl
  · rw [if_neg same]
    split
    · rfl
    · rw [Snapshot.bare?_setNode, if_neg same]

/-- A connection that is left as it is is the same as one set to what it was. -/
theorem bare?_setConnection (store : Store) (id other : String) (connected : Bool) :
    (store.setConnection id connected).fleet.bare? other =
      if id = other then some { store.fleet.bare id with connected := connected }
      else store.fleet.bare? other := by
  rw [setConnection_fleet]
  split
  · rename_i unchanged
    rcases Bool.and_eq_true_iff.1 unchanged with ⟨known, sameConnection⟩
    by_cases same : id = other
    · subst same
      rw [if_pos rfl]
      rw [knows_eq] at known
      rcases Option.isSome_iff_exists.1 known with ⟨node, found⟩
      have connection : (store.fleet.bare id).connected = connected := by
        rw [← Snapshot.withoutDomains_node]
        exact beq_iff_eq.1 sameConnection
      have bare : store.fleet.bare id = node := by
        rw [Snapshot.bare, found]
        rfl
      rw [found, ← connection, bare]
    · rw [if_neg same]
  · rw [Snapshot.bare?_reconcile, Snapshot.bare?_setNode, ← Snapshot.withoutDomains_node]
    rfl

theorem bare?_updateGateway (store : Store) (now : UInt64) (gateway : Gateway) (id : String) :
    (store.updateGateway now gateway).fleet.bare? id = store.fleet.bare? id := by
  rw [updateGateway_fleet]
  rfl

/-! ## Logs, capacity and gateway after a change -/

/-- A store that is as it was, or has published another fleet. -/
inductive Published (store : Store) : Store → Prop where
  | unchanged : Published store store
  | published (fleet : Snapshot) : Published store (store.publish fleet)

theorem Published.migrations_eq {store after : Store} (published : Published store after) :
    after.migrations = store.migrations := by
  cases published with
  | unchanged => rfl
  | published fleet => exact publish_migrations store fleet

theorem Published.capacity_eq {store after : Store} (published : Published store after) :
    after.capacity = store.capacity := by
  cases published with
  | unchanged => rfl
  | published fleet => exact publish_capacity store fleet

theorem published_update (store : Store) (now : UInt64) (id : String) (report : Json) :
    Published store (store.update now id report).1 :=
  .published _

theorem published_register (store : Store) (id : String) : Published store (store.register id) := by
  unfold register
  split
  · exact .unchanged
  · exact .published _

theorem published_setConnection (store : Store) (id : String) (connected : Bool) :
    Published store (store.setConnection id connected) := by
  simp only [setConnection]
  split
  · exact .unchanged
  · exact .published _

theorem published_updateGateway (store : Store) (now : UInt64) (gateway : Gateway) :
    Published store (store.updateGateway now gateway) :=
  .published _

theorem update_gateway (store : Store) (now : UInt64) (id : String) (report : Json) :
    (store.update now id report).1.fleet.gateway = store.fleet.gateway := by
  rw [update_fleet]
  rfl

theorem register_gateway (store : Store) (id : String) :
    (store.register id).fleet.gateway = store.fleet.gateway := by
  rw [register_fleet]
  split <;> rfl

theorem setConnection_gateway (store : Store) (id : String) (connected : Bool) :
    (store.setConnection id connected).fleet.gateway = store.fleet.gateway := by
  rw [setConnection_fleet]
  split <;> rfl

end Store
end Fleet
