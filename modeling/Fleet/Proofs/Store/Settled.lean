import Fleet.Proofs.Keyed
import Fleet.Proofs.Node.Domains
import Fleet.Proofs.Store.Operation

namespace Fleet

/-!
# A store is always settled

What is derived in a fleet agrees with what is stored in it at all times: the route table is that of the
nodes, the domains are those of the table, and no pass over a node has anything to do.  Not every operation
derives everything again.  A new report does; a change of a connection derives only what is common to the
fleet, and not even that when the connection is as it should be; making a node known and replacing the
gateway derive nothing.  So for each of them it has to be shown that what it leaves out had nothing to do.

The domains are written into the nodes after the passes over them, and the passes read the ports and
addresses beside them.  That they have nothing to do afterwards is the content of `Node.Settled.mapNode`.
-/

namespace RouteTable

/-- The table asks of a node only whether it is connected and which routes it has. -/
theorem aggregate_mapValues (change : Node → Node)
    (sameConnected : ∀ node, (change node).connected = node.connected)
    (sameRoutes : ∀ node, (change node).proxyRoutes = node.proxyRoutes) (nodes : Keyed Node) :
    aggregate (nodes.mapValues change) = aggregate nodes := by
  have connected : Node.connected ∘ change = Node.connected := funext sameConnected
  unfold aggregate
  rw [Keyed.values_mapValues, List.filter_map, connected, List.flatMap_map]
  simp only [sameRoutes]

/-- Nodes that agree in what the table asks for have the same table. -/
theorem aggregate_eq_of_mapValues (change : Node → Node)
    (sameConnected : ∀ node, (change node).connected = node.connected)
    (sameRoutes : ∀ node, (change node).proxyRoutes = node.proxyRoutes) {left right : Keyed Node}
    (alike : left.mapValues change = right.mapValues change) : aggregate left = aggregate right :=
  calc
    aggregate left = aggregate (left.mapValues change) :=
      (aggregate_mapValues change sameConnected sameRoutes left).symm
    _ = aggregate (right.mapValues change) := by rw [alike]
    _ = aggregate right := aggregate_mapValues change sameConnected sameRoutes right

/-- A node that is new and not connected has no part in the table. -/
theorem aggregate_insert_of_fresh {nodes : Keyed Node} {id : String} {node : Node}
    (fresh : nodes.get? id = none) (disconnected : node.connected = false) :
    aggregate (nodes.insert id node) = aggregate nodes := by
  rcases Keyed.values_insert_of_fresh node fresh with ⟨before, after, split, inserted⟩
  have filtered : (nodes.insert id node).values.filter Node.connected =
      nodes.values.filter Node.connected := by
    rw [split, inserted, List.filter_append, List.filter_append, List.filter_cons_of_neg]
    simp [disconnected]
  unfold aggregate
  rw [filtered]

end RouteTable

namespace Snapshot

/-- Nothing in a fleet is left to derive: the route table is that of the nodes, the domains are those of
the table, and no pass over a node changes it. -/
structure Settled (fleet : Snapshot) : Prop where
  routes : fleet.proxy.routes = RouteTable.aggregate fleet.nodes
  domains : Domain.mapNodes fleet.proxy.routes fleet.nodes = fleet.nodes
  nodes : ∀ node ∈ fleet.nodes.values, node.Settled

theorem settled_empty : empty.Settled where
  routes := rfl
  domains := rfl
  nodes := fun _ member => nomatch member

theorem Settled.reconcile_eq_self {fleet : Snapshot} (settled : fleet.Settled) : fleet.reconcile = fleet := by
  unfold reconcile
  simp only [← settled.routes, settled.domains]

/-- Deriving the table and the domains settles a fleet whose nodes are settled. -/
theorem settled_reconcile {fleet : Snapshot} (each : ∀ node ∈ fleet.nodes.values, node.Settled) :
    fleet.reconcile.Settled where
  routes := (RouteTable.aggregate_mapValues (Domain.mapNode _) (fun _ => rfl) (fun _ => rfl) fleet.nodes).symm
  domains := by
    change ((fleet.nodes.mapValues _).mapValues _) = fleet.nodes.mapValues _
    rw [Keyed.mapValues_mapValues]
    congr 1
    funext node
    exact Node.mapNode_mapNode _ node
  nodes := by
    intro node member
    change node ∈ (fleet.nodes.mapValues _).values at member
    rw [Keyed.values_mapValues] at member
    rcases List.mem_map.1 member with ⟨derived, derivedMember, rfl⟩
    exact (each derived derivedMember).mapNode _

/-- The node of an id is settled, whether it is known or not. -/
theorem Settled.node {fleet : Snapshot} (settled : fleet.Settled) (id : String) :
    (fleet.node id).Settled := by
  unfold Snapshot.node
  cases found : fleet.nodes.get? id with
  | none => exact Node.settled_unknown
  | some node => exact settled.nodes node (Keyed.mem_values_iff.2 ⟨id, found⟩)

theorem Settled.setNode_reconcile {fleet : Snapshot} (settled : fleet.Settled) (id : String) {node : Node}
    (nodeSettled : node.Settled) : (fleet.setNode id node).reconcile.Settled := by
  apply settled_reconcile
  intro other member
  rcases Keyed.mem_values_insert member with rfl | old
  · exact nodeSettled
  · exact settled.nodes other old

/-- Of a node that becomes known there is nothing to derive yet, neither for itself nor for the fleet. -/
theorem Settled.setNode_unknown {fleet : Snapshot} (settled : fleet.Settled) {id : String}
    (fresh : fleet.nodes.get? id = none) : (fleet.setNode id .unknown).Settled where
  routes := settled.routes.trans (RouteTable.aggregate_insert_of_fresh fresh rfl).symm
  domains := by
    change (fleet.nodes.insert id .unknown).mapValues _ = fleet.nodes.insert id .unknown
    rw [Keyed.mapValues_insert]
    exact congrArg (Keyed.insert id Node.unknown) settled.domains
  nodes := by
    intro node member
    rcases Keyed.mem_values_insert member with rfl | old
    · exact Node.settled_unknown
    · exact settled.nodes node old

end Snapshot

namespace Store

theorem settled_apply {store : Store} (settled : store.fleet.Settled) (now : UInt64) (change : Change) :
    (store.apply now change).1.fleet.Settled := by
  cases change with
  | update id report =>
      change (store.update now id report).1.fleet.Settled
      rw [update_fleet]
      exact settled.setNode_reconcile id (Node.settled_receive now _ _)
  | register id =>
      change (store.register id).fleet.Settled
      rw [register_fleet]
      split
      · exact settled
      · rename_i unknown
        exact settled.setNode_unknown (Keyed.contains_eq_false_iff.1 (Bool.eq_false_iff.2 unknown))
  | setConnection id connected =>
      change (store.setConnection id connected).fleet.Settled
      rw [setConnection_fleet]
      split
      · exact settled
      · exact settled.setNode_reconcile id ((settled.node id).setConnected connected)
  | recordMigration id event =>
      rw [apply_recordMigration_fleet]
      exact settled
  | updateGateway gateway =>
      change (store.updateGateway now gateway).fleet.Settled
      rw [updateGateway_fleet]
      exact ⟨settled.routes, settled.domains, settled.nodes⟩

theorem settled_perform {store : Store} (settled : store.fleet.Settled) (now : UInt64)
    (operation : Operation) : (store.perform now operation).1.fleet.Settled := by
  cases operation with
  | change change => exact settled_apply settled now change
  | ask question => exact settled
  | subscribe label fails => exact settled
  | unsubscribe listener => exact settled

/-- What is asked of a store leaves nothing to derive if nothing was left before. -/
theorem settled_later {store : Store} (settled : store.fleet.Settled) (history : List (UInt64 × Operation)) :
    (perform.run store history).1.fleet.Settled :=
  Machine.run_keeps (fun store : Store => store.fleet.Settled)
    (fun _ now operation settled => settled_perform settled now operation) settled history

/-- Whatever was asked of a store, in whatever order and at whatever times, nothing is left to derive. -/
theorem settled_run (capacity : Nat) (history : List (UInt64 × Operation)) :
    (perform.run (empty capacity) history).1.fleet.Settled :=
  settled_later Snapshot.settled_empty history

end Store
end Fleet
