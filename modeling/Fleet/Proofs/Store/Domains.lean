import Fleet.Proofs.Node.Addresses
import Fleet.Proofs.Resources
import Fleet.Proofs.Store.Settled

namespace Fleet

/-!
# The domains that a store shows

At any time the domains of a service or a container are exactly the host names whose routes lead to one of its
ports: none is missing, and none is left from a route, a port, an address or a connection that has changed
since.  Nothing has to be said about changes for that.  The fleet is settled, so the domains are those that
would be derived now, and those are exact.

The text of a target is compared with addresses, so it matters what addresses are.  Those of a node are derived
from its resources, which makes all of them addresses of version 4.
-/

namespace Snapshot

/-- The nodes of a settled fleet have the domains that its table gives them. -/
theorem Settled.mapNode {fleet : Snapshot} (settled : fleet.Settled) (id : String) :
    Domain.mapNode (Domain.index fleet.proxy.routes) (fleet.node id) = fleet.node id := by
  have held := congrArg (fun nodes => (nodes.get? id).getD Node.unknown) settled.domains
  change ((fleet.nodes.mapValues _).get? id).getD _ = fleet.node id at held
  rw [Keyed.get?_mapValues] at held
  refine Eq.trans ?_ held
  unfold Snapshot.node
  cases fleet.nodes.get? id <;> rfl

theorem Settled.plain {fleet : Snapshot} (settled : fleet.Settled) (id : String) {address : String}
    (member : address ∈ Domain.addresses (fleet.node id).nodeIps) : Domain.Plain address := by
  rw [← (settled.node id).nodeIps] at member
  exact Node.plain_of_mem_addresses member

theorem Settled.exact_service {fleet : Snapshot} (settled : fleet.Settled) {id : String} {service : Service}
    (member : service ∈ (fleet.node id).services) :
    Domain.Exact fleet.proxy.routes (fleet.node id).nodeIps (service.ports.getD []) service.verifiedDomains := by
  have same := (congrArg Node.services (settled.mapNode id)).trans (List.map_id _).symm
  have derived := congrArg Service.verifiedDomains (List.map_inj_left.1 same service member)
  rw [← show _ = service.verifiedDomains from derived]
  exact Domain.exact_verified fun address known => (settled.plain id known).nonempty

theorem Settled.exact_container {fleet : Snapshot} (settled : fleet.Settled) {id : String}
    {container : Container} (member : container ∈ (fleet.node id).containers) :
    Domain.Exact fleet.proxy.routes (fleet.node id).nodeIps container.ports container.verifiedDomains := by
  have same := (congrArg Node.containers (settled.mapNode id)).trans (List.map_id _).symm
  have derived := congrArg Container.verifiedDomains (List.map_inj_left.1 same container member)
  rw [← show _ = container.verifiedDomains from derived]
  exact Domain.exact_verified fun address known => (settled.plain id known).nonempty

end Snapshot

namespace Store

/-- Whatever was asked of a store, every service and every container has exactly the domains whose routes lead
to one of its ports. -/
theorem domains_exact (capacity : Nat) (history : List (UInt64 × Operation)) (id : String) :
    let fleet := (perform.run (empty capacity) history).1.fleet
    let node := fleet.node id
    (∀ service ∈ node.services,
      Domain.Exact fleet.proxy.routes node.nodeIps (service.ports.getD []) service.verifiedDomains) ∧
    (∀ container ∈ node.containers,
      Domain.Exact fleet.proxy.routes node.nodeIps container.ports container.verifiedDomains) := by
  intro fleet node
  have settled : fleet.Settled := settled_later Snapshot.settled_empty history
  exact ⟨fun _ member => settled.exact_service member, fun _ member => settled.exact_container member⟩

/-- A container that a proxy on another node reaches by an address of its own node, with the port beside it. -/
theorem domains_exact_two_nodes :
    let routes : Json := .object [("proxyRoutes", .array [.object [("host", .string "b.test"),
      ("targetPort", .number (.whole 3000)), ("targetService", .string "http://10.0.0.7")]])]
    let listing : Json := .object
      [("containers", .array [.object [("id", .string "c"),
          ("ports", .array [.object [("containerPort", .number (.whole 80)), ("hostPort", .number (.whole 3000))]])]]),
        ("resources", .object [("network", .object [("eth0", .array [.object
          [("address", .string "10.0.0.7"), ("family", .string "IPv4")]])])])]
    let history : List (UInt64 × Operation) :=
      [(1, .change (.update "edge" routes)), (2, .change (.update "apps" listing))]
    let fleet := (perform.run (empty 5) history).1.fleet
    let container : Container :=
      ⟨"c", [], "", "", [⟨some 3000, some 80, "tcp", some "10.0.0.7"⟩], .empty, [], false, none, none, none,
        some ["b.test"]⟩
    container ∈ (fleet.node "apps").containers ∧
      Domain.Exact fleet.proxy.routes (fleet.node "apps").nodeIps container.ports container.verifiedDomains := by
  intro routes listing history fleet container
  have member : container ∈ (fleet.node "apps").containers := by decide +kernel +zetaReduce
  exact ⟨member, (domains_exact 5 history "apps").2 container member⟩

end Store
end Fleet
