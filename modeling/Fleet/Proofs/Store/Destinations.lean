import Fleet.Proofs.Destination
import Fleet.Proofs.RouteTable
import Fleet.Proofs.Store.Domains

namespace Fleet

/-!
# Whether the domains follow what server blocks show

A server block shows for a route the host and the port that it forwards to, so that the domains can be led back
to what serves them.  A service or a container that has this port, on a node that has this host among its
addresses, has the host name of the route among its domains exactly when the target of the route is verbatim.
Where a path follows the host and the port, the server block shows them all the same, and the domain is missing.
-/

namespace Destination

/-- A host name is among the domains of an entity with the port that a server block shows exactly when the
target of its route is verbatim. -/
theorem mem_domains_iff {routes : List Route} (unambiguous : RouteTable.Unambiguous routes)
    {nodeIps : List String} (plain : ∀ address ∈ Domain.addresses nodeIps, Domain.Plain address)
    {ports : List PortMapping} {domains : Option (List String)}
    (exact : Domain.Exact routes nodeIps ports domains) {route : Route} (member : route ∈ routes) {port : UInt16}
    (shownPort : (ofRoute route).2.targetPort = some port)
    (shownHost : Text.lowerCase (ofRoute route).2.targetHost ∈ Domain.addresses nodeIps)
    (open? : ∃ mapping ∈ ports, mapping.hostPort = some port) :
    route.host ∈ domains.getD [] ↔ Verbatim route := by
  rw [exact.mem_iff]
  constructor
  · rintro ⟨other, otherMember, sameHost, _, _, _, _, leads⟩
    obtain rfl := unambiguous.eq_of_same_host otherMember member sameHost
    exact ((leadsTo_iff plain).1 leads).1
  · intro verbatim
    rcases open? with ⟨mapping, mappingMember, shown⟩
    exact ⟨route, member, rfl, mapping, mappingMember, port, shown,
      (leadsTo_iff plain).2 ⟨verbatim, shownPort, shownHost⟩⟩

end Destination

namespace Store

/-- Whatever was asked of a store, on a node that has the host which a server block shows for a route, every
service and every container with the port which it shows has the host name of the route among its domains if
the target is verbatim, and only then. -/
theorem destinations_followed_iff (capacity : Nat) (history : List (UInt64 × Operation)) (id : String) :
    let fleet := (perform.run (empty capacity) history).1.fleet
    let node := fleet.node id
    ∀ route ∈ fleet.proxy.routes, ∀ port,
      let shown := (Destination.ofRoute route).2
      shown.targetPort = some port →
        (∃ address ∈ ["127.0.0.1", "localhost", "0.0.0.0"] ++ node.nodeIps,
          Text.sameButCase shown.targetHost address = true) →
        (∀ service ∈ node.services, (∃ mapping ∈ service.ports.getD [], mapping.hostPort = some port) →
          (route.host ∈ service.verifiedDomains.getD [] ↔ Destination.Verbatim route)) ∧
        (∀ container ∈ node.containers, (∃ mapping ∈ container.ports, mapping.hostPort = some port) →
          (route.host ∈ container.verifiedDomains.getD [] ↔ Destination.Verbatim route)) := by
  intro fleet node route member port shown shownPort ⟨address, known, sameHost⟩
  have settled : fleet.Settled := settled_later Snapshot.settled_empty history
  have plain : ∀ address ∈ Domain.addresses node.nodeIps, Domain.Plain address := fun _ => settled.plain id
  have unambiguous : RouteTable.Unambiguous fleet.proxy.routes :=
    settled.routes ▸ RouteTable.unambiguous_aggregate fleet.nodes
  have shownHost : Text.lowerCase shown.targetHost ∈ Domain.addresses node.nodeIps := by
    have lowered : Text.lowerCase address = address := by
      rw [Text.lowerCase, (plain address known).lowered_eq, String.ofList_toList]
    rw [beq_iff_eq.1 sameHost, lowered]
    exact known
  exact ⟨fun service serviceMember =>
      Destination.mem_domains_iff unambiguous plain (settled.exact_service serviceMember) member shownPort shownHost,
    fun container containerMember =>
      Destination.mem_domains_iff unambiguous plain (settled.exact_container containerMember) member shownPort
        shownHost⟩

/-- A container that is reached on its own host, whose target is written with a scheme, in capitals and with a
slash at its end. -/
theorem destinations_followed_iff_own_host :
    let listing : Json := .object
      [("containers", .array [.object [("id", .string "c"),
          ("ports", .array [.object [("containerPort", .number (.whole 80)), ("hostPort", .number (.whole 9000))]])]]),
        ("proxyRoutes", .array [.object [("host", .string "b.test"),
          ("targetService", .string "https://LocalHost:9000/")]])]
    let fleet := (perform.run (empty 5) [(1, .change (.update "n" listing))]).1.fleet
    let route : Route := ⟨"b.test", "https://LocalHost:9000/", none, false⟩
    let container : Container :=
      ⟨"c", [], "", "", [⟨some 9000, some 80, "tcp", none⟩], .empty, [], false, none, none, none, some ["b.test"]⟩
    route ∈ fleet.proxy.routes ∧ (Destination.ofRoute route).2.targetPort = some 9000 ∧
      Text.sameButCase (Destination.ofRoute route).2.targetHost "localhost" = true ∧
      container ∈ (fleet.node "n").containers ∧
      (route.host ∈ container.verifiedDomains.getD [] ↔ Destination.Verbatim route) := by
  intro listing fleet route container
  have member : route ∈ fleet.proxy.routes := by decide +kernel +zetaReduce
  have shownPort : (Destination.ofRoute route).2.targetPort = some 9000 := by decide +kernel +zetaReduce
  have shownHost : Text.sameButCase (Destination.ofRoute route).2.targetHost "localhost" = true := by
    decide +kernel +zetaReduce
  have containerMember : container ∈ (fleet.node "n").containers := by decide +kernel +zetaReduce
  have known : "localhost" ∈ ["127.0.0.1", "localhost", "0.0.0.0"] ++ (fleet.node "n").nodeIps :=
    List.mem_append_left _ (by decide)
  refine ⟨member, shownPort, shownHost, containerMember, ?_⟩
  exact (destinations_followed_iff 5 _ "n" route member 9000 shownPort ⟨_, known, shownHost⟩).2 container
    containerMember ⟨_, List.mem_cons_self, rfl⟩

/-- A proxy that forwards to a path of an application on its own node.  The server block shows the address of
the node and the port of the application, and the application has no domain. -/
theorem destination_with_path_lost :
    let listing : Json := .object
      [("proxyRoutes", .array [.object [("host", .string "a.test"),
          ("targetService", .string "http://10.0.0.5:9000/app")]]),
        ("resources", .object [("network", .object [("eth0", .array [.object
          [("address", .string "10.0.0.5"), ("family", .string "IPv4")]])])]),
        ("services", .array [.object [("name", .string "api"), ("ports", .array [.number (.whole 9000)])],
          .object [("name", .string "nginx")]])]
    let fleet := (perform.run (empty 5) [(1, .change (.update "n" listing))]).1.fleet
    let route : Route := ⟨"a.test", "http://10.0.0.5:9000/app", none, false⟩
    route ∈ fleet.proxy.routes ∧ (Destination.ofRoute route).2 = ⟨"10.0.0.5", some 9000, false⟩ ∧
      (fleet.node "n").nodeIps = ["10.0.0.5"] ∧
      ∃ service ∈ (fleet.node "n").services, (∃ mapping ∈ service.ports.getD [], mapping.hostPort = some 9000) ∧
        route.host ∉ service.verifiedDomains.getD [] := by
  intro listing fleet route
  refine ⟨by decide +kernel +zetaReduce, by decide +kernel +zetaReduce, by decide +kernel +zetaReduce, ?_⟩
  decide +kernel +zetaReduce

end Store
end Fleet
