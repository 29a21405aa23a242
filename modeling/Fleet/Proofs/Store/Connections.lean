import Fleet.Proofs.RouteTable
import Fleet.Proofs.Store.Rederivation

namespace Fleet
namespace Store

/-!
# Nodes that go and come back

When a node is disconnected its routes leave the table.  Routes of other nodes may come in for them that had to stand
back before, and lead to other places, so domains may change everywhere.  None of this is lost or has to be
remembered.  The node keeps its routes, and the table and the domains follow from the nodes.  So when the node comes
back the fleet is what it was, down to the last domain.  It has to be a fleet in which everything was derived before,
and in a store every fleet is.
-/

variable {store : Store}

theorem setConnection_fleet_of_ne {id : String} {connected : Bool}
    (changes : (store.fleet.node id).connected ≠ connected) :
    (store.setConnection id connected).fleet =
      (store.fleet.setNode id { store.fleet.node id with connected := connected }).reconcile := by
  rw [setConnection_fleet, if_neg]
  simp [changes]

theorem node_of_connection? {id : String} {connected : Bool} (known : store.connection? id = some connected) :
    ∃ node, store.fleet.node id = node ∧ store.fleet.bare? id = some node.withoutDomains ∧
      node.connected = connected := by
  rcases Option.map_eq_some_iff.1 known with ⟨node, found, same⟩
  change store.fleet.nodes.get? id = some node at found
  refine ⟨node, ?_, congrArg (Option.map Node.withoutDomains) found, same⟩
  rw [Snapshot.node, found]
  rfl

/-- A host is still in the table after a node went exactly if another node that is connected has a route for it. -/
theorem exists_route_iff_of_disconnected {id : String} (connected : store.connection? id = some true) {host : String} :
    (∃ route ∈ (store.setConnection id false).fleet.proxy.routes, route.host = host) ↔
      ∃ other node, other ≠ id ∧ store.node? other = some node ∧ node.connected = true ∧
        ∃ route ∈ node.proxyRoutes, route.host = host := by
  rcases node_of_connection? connected with ⟨own, held, _, ownConnected⟩
  have changes : (store.fleet.node id).connected ≠ false := by simp [held, ownConnected]
  rw [setConnection_fleet_of_ne changes]
  change (∃ route ∈ RouteTable.aggregate (store.fleet.nodes.insert id _), _) ↔ _
  rw [RouteTable.exists_mem_aggregate_iff]
  refine exists_congr fun other => exists_congr fun node => ?_
  rw [Keyed.get?_insert]
  by_cases same : id = other
  · subst same
    rw [if_pos rfl]
    constructor
    · rintro ⟨found, nodeConnected, _⟩
      rw [← Option.some.inj found] at nodeConnected
      cases nodeConnected
    · rintro ⟨different, _⟩
      exact absurd rfl different
  · rw [if_neg same]
    exact ⟨fun given => ⟨Ne.symm same, given⟩, fun given => given.2⟩

/-- Connecting a node again that was disconnected gives back the fleet, if everything was derived in it. -/
theorem setConnection_setConnection_fleet (settled : store.fleet.Settled) {id : String}
    (connected : store.connection? id = some true) :
    ((store.setConnection id false).setConnection id true).fleet = store.fleet := by
  have again : ((store.setConnection id false).setConnection id true).fleet.Settled :=
    settled_apply (settled_apply settled 0 (.setConnection id false)) 0 (.setConnection id true)
  have bare : ∀ other, ((store.setConnection id false).setConnection id true).fleet.bare? other =
      store.fleet.bare? other := by
    intro other
    rw [bare?_setConnection]
    by_cases same : id = other
    · subst same
      have apart : (store.setConnection id false).fleet.bare id = { store.fleet.bare id with connected := false } := by
        rw [Snapshot.bare, bare?_setConnection, if_pos rfl]
        rfl
      rcases node_of_connection? connected with ⟨node, _, known, nodeConnected⟩
      rw [if_pos rfl, apart, Snapshot.bare, known, ← nodeConnected]
      rfl
    · rw [if_neg same, bare?_setConnection, if_neg same]
  have gateway : ((store.setConnection id false).setConnection id true).fleet.gateway = store.fleet.gateway := by
    rw [setConnection_gateway, setConnection_gateway]
  calc
    ((store.setConnection id false).setConnection id true).fleet
      = ((store.setConnection id false).setConnection id true).fleet.reconcile := again.reconcile_eq_self.symm
    _ = store.fleet.reconcile := Snapshot.reconcile_eq_of_bare bare gateway
    _ = store.fleet := settled.reconcile_eq_self

/-- When a connected node is disconnected, its connection is all that changes in any node apart from the domains, and
neither the gateway nor a log changes.  The table has the hosts for which other connected nodes have a route.  When the
node is connected again at once, the fleet is what it was. -/
theorem disconnection_undone (capacity : Nat) (history : List (UInt64 × Operation)) {id : String}
    (connected : (perform.run (empty capacity) history).1.connection? id = some true) :
    let store := (perform.run (empty capacity) history).1
    let apart := store.setConnection id false
    (∀ other, apart.fleet.bare? other =
        (store.fleet.bare? other).map fun node => if other = id then { node with connected := false } else node) ∧
      apart.fleet.gateway = store.fleet.gateway ∧ apart.migrations = store.migrations ∧
      (∀ host, (∃ route ∈ apart.fleet.proxy.routes, route.host = host) ↔
        ∃ other node, other ≠ id ∧ store.node? other = some node ∧ node.connected = true ∧
          ∃ route ∈ node.proxyRoutes, route.host = host) ∧
      (apart.setConnection id true).fleet = store.fleet := by
  intro store apart
  refine ⟨fun other => ?_, setConnection_gateway store id false, (published_setConnection store id false).migrations_eq,
    fun host => exists_route_iff_of_disconnected connected,
    setConnection_setConnection_fleet (settled_later Snapshot.settled_empty history) connected⟩
  rw [bare?_setConnection]
  by_cases same : id = other
  · subst same
    rcases node_of_connection? connected with ⟨node, _, known, _⟩
    rw [if_pos rfl, Snapshot.bare, known]
    simp
  · rw [if_neg same]
    simp [Ne.symm same]

/-- Two nodes with a route for one host, of which the first one goes and comes back. -/
theorem disconnection_undone_shared_host :
    let route (target : String) : Json := .object [("proxyRoutes", .array [.object
      [("host", .string "a.test"), ("targetService", .string target)]])]
    let history : List (UInt64 × Operation) :=
      [(1, .change (.update "a" (route "10.0.0.5:80"))), (2, .change (.update "b" (route "10.0.0.6:80")))]
    let store := (perform.run (empty 5) history).1
    let apart := store.setConnection "a" false
    store.connection? "a" = some true ∧
      store.fleet.proxy.routes.map Route.targetService = ["10.0.0.5:80"] ∧
      apart.fleet.proxy.routes.map Route.targetService = ["10.0.0.6:80"] ∧
      (apart.setConnection "a" true).fleet = store.fleet := by
  intro route history store apart
  have connected : store.connection? "a" = some true := by decide +kernel
  have before : store.fleet.proxy.routes.map Route.targetService = ["10.0.0.5:80"] := by decide +kernel
  have after : apart.fleet.proxy.routes.map Route.targetService = ["10.0.0.6:80"] := by decide +kernel
  exact ⟨connected, before, after, (disconnection_undone 5 history connected).2.2.2.2⟩

end Store
end Fleet
