import Fleet.Proofs.Node.Addresses
import Fleet.Proofs.Node.Ports
import Fleet.Proofs.Store.Nodes

namespace Fleet

/-!
# Which ports a store shows, and at which address

Whatever agents send and in whatever form, a store shows ports in one form only, at every node and in every
bundle: a mapping has a port, no port is zero, protocols are written in one way, and no list says anything twice.

The ports of a node are to be shown at its first address, whatever it was when they were reported.  In a
store this holds of a node exactly when its containers have no wildcard whose place an earlier address took.
What address that is, is told by the reports of the node alone, whatever else is asked of the store.
-/

/-! ## One form -/

namespace Node

theorem lasting_canonicalPorts : Lasting fun _ => CanonicalPorts where
  unknown := canonicalPorts_unknown
  receive := fun now document _ _ canonical => canonical.receive now document
  setConnected := fun _ _ _ canonical => ⟨⟨canonical.containers, canonical.declared⟩, canonical.services⟩
  mapNode := fun index _ _ canonical => canonical.mapNode index

end Node

namespace Store

/-- At any time the ports of all containers, of all services and of all bundles are canonical, and a service
without ports has no list of them. -/
theorem ports_canonical (capacity : Nat) (history : List (UInt64 × Operation)) (id : String) :
    let node := (perform.run (empty capacity) history).1.fleet.node id
    (∀ container ∈ node.containers, PortMapping.CanonicalList container.ports) ∧
      (∀ service ∈ node.services, PortMapping.CanonicalList service.declaredPorts ∧
        ∀ ports, service.ports = some ports → ports ≠ [] ∧ PortMapping.CanonicalList ports) ∧
      ∀ bundle ∈ Bundle.ofNode id node, PortMapping.CanonicalList bundle.ports := by
  intro node
  have canonical : node.CanonicalPorts := lasts_run Node.lasting_canonicalPorts capacity history id
  exact ⟨canonical.containers,
    fun service listed => ⟨canonical.declared service listed, canonical.services service listed⟩,
    fun _ listed => canonical.bundles listed⟩

end Store

/-! ## The address of the node -/

namespace Node

theorem lasting_account :
    Lasting fun reports node => (Account.ofReports reports).Describes node ∧ node.Settled where
  unknown := ⟨Account.describes_silent, settled_unknown⟩
  receive := by
    intro now document reports node ⟨describes, _⟩
    rw [Account.ofReports_append]
    exact ⟨describes.receive now _, settled_receive now _ node⟩
  setConnected := fun connected _ _ ⟨describes, settled⟩ =>
    ⟨⟨describes.resources, describes.containers⟩, settled.setConnected connected⟩
  mapNode := fun index _ _ ⟨describes, settled⟩ => ⟨describes.mapNode index, settled.mapNode index⟩

end Node

namespace Store

/-- At any time a node has its containers as they were listed last, their wildcards shown at an address that
was written over them since.  Its ports are what they should be for the address that it has then exactly when
every wildcard that was listed is shown at that one. -/
theorem addresses_follow_iff (capacity : Nat) (history : List (UInt64 × Operation)) (id : String) :
    let node := (perform.run (empty capacity) history).1.fleet.node id
    let account := Node.Account.ofReports (reportsOf id history)
    account.Describes node ∧
      (node.Follows account.listed ↔
        ∀ container ∈ account.listed, ∀ mapping ∈ container.ports,
          PortMapping.isUnspecified mapping.hostIp = true →
            account.shown.or mapping.hostIp = node.nodeIps.head?.or mapping.hostIp) := by
  intro node account
  have lasts : account.Describes node ∧ node.Settled := lasts_run Node.lasting_account capacity history id
  exact ⟨lasts.1, lasts.1.follows_iff lasts.2⟩

/-- A host whose address changes.  The report with the new address leaves the containers out, and the port of
the container, and with it the one of the service, stays at the old address. -/
theorem addresses_left_behind :
    let address : String → Json := fun ip => .object [("network", .object [("eth0", .array [.object
      [("address", .string ip), ("family", .string "IPv4")]])])]
    let listing : Json := .object
      [("containers", .array [.object [("id", .string "c"), ("names", Json.texts ["web"]),
          ("ports", .array [.object [("containerPort", .number (.whole 80)), ("hostIp", .string "0.0.0.0"),
            ("hostPort", .number (.whole 8080))]])]]),
        ("resources", address "10.0.0.5"), ("services", .array [.object [("name", .string "web.service")]])]
    let moved : Json := .object [("resources", address "10.0.0.9")]
    let history : List (UInt64 × Operation) :=
      [(1, .change (.update "n" listing)), (2, .change (.update "n" moved))]
    let node := (perform.run (empty 5) history).1.fleet.node "n"
    node.nodeIps = ["10.0.0.9"] ∧
      node.containers.map (fun container => container.ports.map PortMapping.hostIp) = [[some "10.0.0.5"]] ∧
      node.services.map (fun service => service.ports.map (List.map PortMapping.hostIp)) =
        [some [some "10.0.0.5"]] ∧
      ¬ node.Follows (Node.Account.ofReports (reportsOf "n" history)).listed := by
  intro address listing moved history node
  refine ⟨by decide +kernel +zetaReduce, by decide +kernel +zetaReduce, by decide +kernel +zetaReduce, ?_⟩
  intro follows
  have shown := follows.containers
  revert shown
  decide +kernel +zetaReduce

end Store
end Fleet
