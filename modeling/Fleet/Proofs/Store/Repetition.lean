import Fleet.Proofs.Node.Repetition
import Fleet.Proofs.Store.Nodes
import Fleet.Proofs.Store.Rederivation

namespace Fleet

/-!
# Repeated updates

An agent may send the same report again and again.  The store then settles: from the third time on nothing
changes but the time of the last report, and already the second time nothing changes if the services of the
report have different names.  Nothing means the whole fleet, with the order of all lists, for the route table
and the domains of other nodes are derived again at every update.

For the node itself the question is answered by `Node.Steady`.  What is left is that a fleet in which
everything is derived does not change when it is derived again, and that it does not matter for the table and
the domains when a node was heard of.
-/

namespace Snapshot

/-- A fleet as if the last report of a node had arrived at a given time. -/
def syncedAt (fleet : Snapshot) (id : String) (now : UInt64) : Snapshot :=
  fleet.setNode id ((fleet.node id).syncedAt now)

theorem reconcile_reconcile (fleet : Snapshot) : fleet.reconcile.reconcile = fleet.reconcile :=
  reconcile_eq_of_bare (fun id => bare?_reconcile fleet id) rfl

/-- The route table does not ask when a node was heard of. -/
theorem aggregate_syncedAt {fleet : Snapshot} {id : String} (known : (fleet.nodes.get? id).isSome)
    (now : UInt64) :
    RouteTable.aggregate (fleet.syncedAt id now).nodes = RouteTable.aggregate fleet.nodes := by
  have timeless : (fleet.syncedAt id now).nodes.mapValues Node.timeless =
      fleet.nodes.mapValues Node.timeless := by
    apply Keyed.ext_get?
    intro other
    change ((fleet.nodes.insert id ((fleet.node id).syncedAt now)).mapValues _).get? other = _
    rw [Keyed.get?_mapValues, Keyed.get?_mapValues, Keyed.get?_insert]
    by_cases same : id = other
    · subst same
      rcases Option.isSome_iff_exists.1 known with ⟨node, found⟩
      have held : fleet.node id = node := by
        rw [Snapshot.node, found]
        rfl
      rw [if_pos rfl, found, held]
      rfl
    · rw [if_neg same]
  exact RouteTable.aggregate_eq_of_mapValues Node.timeless (fun _ => rfl) (fun _ => rfl) timeless

theorem reconcile_syncedAt {fleet : Snapshot} {id : String} (known : (fleet.nodes.get? id).isSome)
    (now : UInt64) : (fleet.syncedAt id now).reconcile = fleet.reconcile.syncedAt id now := by
  have routes := aggregate_syncedAt known now
  have nodes : Domain.mapNodes (RouteTable.aggregate fleet.nodes) (fleet.syncedAt id now).nodes =
      (fleet.reconcile.syncedAt id now).nodes := by
    change (fleet.nodes.insert id _).mapValues _ = fleet.reconcile.nodes.insert id _
    rw [Keyed.mapValues_insert, node_reconcile]
    rfl
  change (⟨Domain.mapNodes (RouteTable.aggregate (fleet.syncedAt id now).nodes) _, fleet.gateway, ⟨_⟩⟩ :
    Snapshot) = _
  rw [routes, nodes]
  rfl

end Snapshot

namespace Store

variable {store : Store} {id : String} {report : Json}

theorem isSome_get?_update (store : Store) (now : UInt64) (id : String) (report : Json) :
    ((store.update now id report).1.fleet.nodes.get? id).isSome := by
  rw [update_fleet]
  change (((store.fleet.nodes.insert id _).mapValues _).get? id).isSome = true
  rw [Keyed.get?_mapValues, Keyed.get?_insert, if_pos rfl]
  rfl

theorem reconcile_update (store : Store) (now : UInt64) (id : String) (report : Json) :
    (store.update now id report).1.fleet.reconcile = (store.update now id report).1.fleet := by
  rw [update_fleet, Snapshot.reconcile_reconcile]

/-- A report that changes nothing at its node changes nothing in a fleet in which everything is derived. -/
theorem update_of_steady (derived : store.fleet.reconcile = store.fleet)
    (known : (store.fleet.nodes.get? id).isSome) (steady : (store.fleet.node id).Steady (Report.read report).1)
    (now : UInt64) : (store.update now id report).1.fleet = store.fleet.syncedAt id now :=
  calc
    (store.update now id report).1.fleet
      = (store.fleet.setNode id ((store.fleet.node id).receive now (Report.read report).1)).reconcile :=
        update_fleet store now id report
    _ = (store.fleet.syncedAt id now).reconcile := by
        refine Snapshot.reconcile_eq_of_bare (fun other => ?_) rfl
        unfold Snapshot.syncedAt
        rw [Snapshot.bare?_setNode, Snapshot.bare?_setNode, steady now]
    _ = store.fleet.reconcile.syncedAt id now := Snapshot.reconcile_syncedAt known now
    _ = store.fleet.syncedAt id now := by rw [derived]

/-- After an update the node is steady if the report leaves it steady, for the domains have no part in it. -/
theorem steady_update {now : UInt64} {node : Node}
    (same : (store.fleet.node id).withoutDomains = node.withoutDomains)
    (steady : (node.receive now (Report.read report).1).Steady (Report.read report).1) :
    ((store.update now id report).1.fleet.node id).Steady (Report.read report).1 := by
  rcases exists_node_update_self store now id report with ⟨index, updated⟩
  refine steady.congr ?_
  rw [updated, Node.withoutDomains_mapNode, ← Node.receive_withoutDomains, ← same,
    Node.receive_withoutDomains]

/-- The third update with one report changes nothing but the time, and the second changes nothing if the
services of the report have different names. -/
theorem update_settles (store : Store) (first second third : UInt64) (id : String) (report : Json) :
    let once := (store.update first id report).1
    let twice := (once.update second id report).1
    let thrice := (twice.update third id report).1
    thrice.fleet = twice.fleet.syncedAt id third ∧
      ((∀ services, (Report.read report).1.services = some services →
          (services.map Service.name).Nodup) →
        twice.fleet = once.fleet.syncedAt id second) := by
  intro once twice thrice
  constructor
  · rcases exists_node_update_self store first id report with ⟨index, updated⟩
    have received : (once.fleet.node id).withoutDomains =
        ((store.fleet.node id).receive first (Report.read report).1).withoutDomains := by
      rw [updated, Node.withoutDomains_mapNode]
    exact update_of_steady (reconcile_update once second id report) (isSome_get?_update once second id report)
      (steady_update received (Node.steady_receive_receive _ _ _ _)) third
  · intro different
    exact update_of_steady (reconcile_update store first id report) (isSome_get?_update store first id report)
      (steady_update rfl (Node.steady_receive_of_nodup different _ _)) second

/-- Two services, one of which is given a container and has another one by its name. -/
theorem update_settles_two_services :
    let report : Json := .object
      [("containers", .array [.object [("id", .string "c"), ("names", Json.texts ["/systemd-web"])]]),
        ("services", .array [
          .object [("associatedContainerIds", Json.texts ["b"]), ("name", .string "web.service")],
          .object [("name", .string "nginx")]])]
    let once := ((empty 5).update 1 "n" report).1
    let twice := (once.update 2 "n" report).1
    (∀ services, (Report.read report).1.services = some services → (services.map Service.name).Nodup) ∧
      twice.fleet = once.fleet.syncedAt "n" 2 := by
  intro report once twice
  have names : (Report.read report).1.services.map (List.map Service.name) = some ["web", "nginx"] := by
    decide +kernel +zetaReduce
  have different : ∀ services, (Report.read report).1.services = some services →
      (services.map Service.name).Nodup := by
    intro services given
    rw [given] at names
    rw [Option.some.inj names]
    decide
  exact ⟨different, (update_settles (empty 5) 1 2 3 "n" report).2 different⟩

end Store
end Fleet
