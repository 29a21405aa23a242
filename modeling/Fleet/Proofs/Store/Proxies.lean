import Fleet.Proofs.Node.Election
import Fleet.Proofs.Node.Identity
import Fleet.Proofs.Node.PortSources
import Fleet.Proofs.Store.Settled

namespace Fleet

/-!
# The primary proxies of a fleet

Every node of a store has its own primary proxy, and only reports can make it another one.  Evidence comes and goes
with the services, the containers and the files that are reported, each at a time of its own.  Still the election is
never out of date, for a node in which nothing is left to derive has the proxy that would be elected now.

A primary proxy serves its routes over TCP, at host port 80 and, if a route is encrypted, at host port 443.  Both ports
are added to its list where they are missing.  But a web port counts as there as soon as any mapping has its number,
and a number alone does not tell the protocol: a proxy that also takes UDP at port 443 is shown without TCP there.  So
the web ports are in use at all times, and they are open for TCP exactly when no other protocol holds them alone.
-/

/-! ## Election -/

namespace Store

/-- Whatever was asked of a store, every node has one primary proxy if it has a reverse proxy at all.  It is the one
that comes first, it alone is configured, with a block for every route of the node, and no service with an excluded
name is among those who stand. -/
theorem primaries_elected (capacity : Nat) (history : List (UInt64 × Operation)) (id : String) :
    ((perform.run (empty capacity) history).1.fleet.node id).Elected :=
  ((settled_later Snapshot.settled_empty history).node id).elected

/-- A well-known proxy that is not active, one that sounds like a proxy, a well-known one, and one that its agent takes
for a proxy although its name excludes it. -/
example :
    let service (name state : String) (claimed : Bool) : Json := .object
      [("activeState", .string state), ("isReverseProxy", .bool claimed), ("name", .string name)]
    let report : Json := .object
      [("proxyRoutes", .array [.object [("host", .string "a.test"), ("targetService", .string "10.0.0.5:80")]]),
        ("services", .array [service "nginx" "inactive" false, service "edge-proxy" "active" false,
          service "traefik" "active" false, service "mpris-proxy" "active" true])]
    let node := (perform.run (empty 5) [(1, .change (.update "n" report))]).1.fleet.node "n"
    node.services.map (fun service => (service.isReverseProxy, service.isPrimaryProxy,
        service.proxyConfiguration.map fun configuration => configuration.servers.length)) =
      [(true, false, none), (true, false, none), (true, true, some 1), (false, false, none)] := by
  decide +kernel

end Store

/-! ## Web ports -/

namespace PortMapping

/-- A host port is in use, for whatever protocol. -/
def Taken (port : UInt16) (ports : List PortMapping) : Prop :=
  ∃ mapping ∈ ports, mapping.hostPort = some port

/-- A host port is open for TCP, whatever container port is behind it. -/
def Listens (port : UInt16) (ports : List PortMapping) : Prop :=
  ∃ mapping ∈ ports, mapping.hostPort = some port ∧ mapping.protocol = "tcp"

/-- A host port is in use for other protocols than TCP only. -/
def Withheld (port : UInt16) (ports : List PortMapping) : Prop :=
  Taken port ports ∧ ¬ Listens port ports

instance (port : UInt16) (ports : List PortMapping) : Decidable (Taken port ports) :=
  inferInstanceAs (Decidable (∃ mapping ∈ ports, _))

instance (port : UInt16) (ports : List PortMapping) : Decidable (Listens port ports) :=
  inferInstanceAs (Decidable (∃ mapping ∈ ports, _))

instance (port : UInt16) (ports : List PortMapping) : Decidable (Withheld port ports) :=
  inferInstanceAs (Decidable (_ ∧ _))

variable {port other : UInt16} {ports : List PortMapping}

theorem taken_iff_identity : Taken port ports ↔ ∃ key ∈ ports.map identity, key.1 = some port := by
  simp [Taken, identity]

theorem listens_iff_identity : Listens port ports ↔ ∃ key ∈ ports.map identity, key.1 = some port ∧ key.2.2 = "tcp" := by
  simp [Listens, identity]

/-- The addresses of mappings make no difference to the ports that are in use. -/
theorem taken_resolveHostIps (address : Option String) : Taken port (resolveHostIps address ports) ↔ Taken port ports := by
  rw [taken_iff_identity, taken_iff_identity, map_identity_resolveHostIps]

theorem listens_resolveHostIps (address : Option String) :
    Listens port (resolveHostIps address ports) ↔ Listens port ports := by
  rw [listens_iff_identity, listens_iff_identity, map_identity_resolveHostIps]

end PortMapping

open PortMapping

namespace ServicePorts

variable {port other : UInt16} {ports : List PortMapping} {routes : List Route}

theorem mem_ensure_iff {mapping : PortMapping} :
    mapping ∈ ensure port ports ↔ mapping ∈ ports ∨ ¬ Taken port ports ∧ mapping = onHost port := by
  have known : (ports.any fun mapping => mapping.hostPort == some port) = true ↔ Taken port ports := by
    simp [Taken]
  unfold ensure
  by_cases taken : Taken port ports
  · rw [if_pos (known.2 taken)]
    exact (or_iff_left fun added => added.1 taken).symm
  · rw [if_neg fun given => taken (known.1 given), List.mem_append, List.mem_singleton, and_iff_right taken]

theorem taken_ensure : Taken other (ensure port ports) ↔ Taken other ports ∨ other = port := by
  constructor
  · rintro ⟨mapping, listed, atPort⟩
    rcases mem_ensure_iff.1 listed with known | ⟨_, rfl⟩
    · exact Or.inl ⟨mapping, known, atPort⟩
    · exact Or.inr (Option.some.inj atPort).symm
  · rintro (⟨mapping, known, atPort⟩ | rfl)
    · exact ⟨mapping, mem_ensure_iff.2 (Or.inl known), atPort⟩
    · by_cases taken : Taken other ports
      · rcases taken with ⟨mapping, known, atPort⟩
        exact ⟨mapping, mem_ensure_iff.2 (Or.inl known), atPort⟩
      · exact ⟨onHost other, mem_ensure_iff.2 (Or.inr ⟨taken, rfl⟩), rfl⟩

/-- A host port that is added is open for TCP, and no other one is opened. -/
theorem listens_ensure : Listens other (ensure port ports) ↔ Listens other ports ∨ other = port ∧ ¬ Taken port ports := by
  constructor
  · rintro ⟨mapping, listed, atPort, tcp⟩
    rcases mem_ensure_iff.1 listed with known | ⟨free, rfl⟩
    · exact Or.inl ⟨mapping, known, atPort, tcp⟩
    · exact Or.inr ⟨(Option.some.inj atPort).symm, free⟩
  · rintro (⟨mapping, known, atPort, tcp⟩ | ⟨rfl, free⟩)
    · exact ⟨mapping, mem_ensure_iff.2 (Or.inl known), atPort, tcp⟩
    · exact ⟨onHost other, mem_ensure_iff.2 (Or.inr ⟨free, rfl⟩), rfl, rfl⟩

/-- Where no mapping had a port, the one that is added opens it; where one had it, nothing is added. -/
theorem listens_ensure_self : Listens port (ensure port ports) ↔ ¬ Withheld port ports := by
  rw [listens_ensure, and_iff_right rfl, Withheld, not_and_or, not_not, or_comm]

/-- The host ports at which the routes of a proxy are served. -/
def IsWebPort (routes : List Route) (port : UInt16) : Prop :=
  port = 80 ∨ port = 443 ∧ ∃ route ∈ routes, route.ssl = true

theorem ensureWeb_eq (routes : List Route) (ports : List PortMapping) :
    ensureWeb routes ports = if routes.any Route.ssl then ensure 443 (ensure 80 ports) else ensure 80 ports := rfl

theorem taken_ensureWeb (web : IsWebPort routes port) : Taken port (ensureWeb routes ports) := by
  rw [ensureWeb_eq]
  rcases web with rfl | ⟨rfl, encrypted⟩
  · have plain : Taken 80 (ensure 80 ports) := taken_ensure.2 (Or.inr rfl)
    split
    · exact taken_ensure.2 (Or.inl plain)
    · exact plain
  · rw [if_pos (List.any_eq_true.2 encrypted)]
    exact taken_ensure.2 (Or.inr rfl)

/-- The two web ports do not stand in the way of each other. -/
theorem listens_ensureWeb (web : IsWebPort routes port) :
    Listens port (ensureWeb routes ports) ↔ ¬ Withheld port ports := by
  rw [ensureWeb_eq]
  rcases web with rfl | ⟨rfl, encrypted⟩
  · split
    · rw [listens_ensure, or_iff_left fun other => absurd other.1 (by decide), listens_ensure_self]
    · exact listens_ensure_self
  · have apart : Withheld 443 (ensure 80 ports) ↔ Withheld 443 ports := by
      rw [Withheld, Withheld, taken_ensure, listens_ensure, or_iff_left (by decide),
        or_iff_left fun other => absurd other.1 (by decide)]
    rw [if_pos (List.any_eq_true.2 encrypted), listens_ensure_self, apart]

end ServicePorts

namespace Node

variable {node : Node} {service : Service}

/-- What a node shows for its primary proxy is what is known of its ports, with the web ports ensured. -/
theorem Settled.ports_of_primary (settled : node.Settled) (listed : service ∈ node.services)
    (primary : service.isPrimaryProxy = true) :
    service.ports.getD [] = resolveHostIps node.nodeIps.head?
      (ServicePorts.ensureWeb node.proxyRoutes (ServicePorts.gathered node.containers
        (Container.ofIds node.containers service.associatedContainerIds) service)) := by
  have observed : ServicePorts.observed node.containers node.proxyRoutes
      (Container.ofIds node.containers service.associatedContainerIds) service =
        ServicePorts.ensureWeb node.proxyRoutes (ServicePorts.gathered node.containers
          (Container.ofIds node.containers service.associatedContainerIds) service) :=
    (ServicePorts.observed_eq node.proxyRoutes service).trans (if_pos primary)
  rw [(settled.followsContainers listed).ports, ServicePorts.effective, observed]
  generalize ServicePorts.gathered node.containers _ service = known
  -- The web port that is always in use keeps the list from being empty, so that the unit file is not looked at.
  have taken : Taken 80 (ServicePorts.ensureWeb node.proxyRoutes known) := ServicePorts.taken_ensureWeb (Or.inl rfl)
  rcases taken with ⟨mapping, present, _⟩
  have nonempty : (ServicePorts.ensureWeb node.proxyRoutes known).isEmpty = false :=
    List.isEmpty_eq_false_iff.2 (List.ne_nil_of_mem present)
  simp only [nonempty, Bool.false_eq_true, if_false]
  split
  · rename_i empty
    rw [Option.getD_none, List.isEmpty_iff.1 empty]
  · rfl

end Node

namespace Store

/-- Whatever was asked of a store, the web ports of the primary proxy of a node are in use, and each is open for TCP
exactly when other protocols do not hold it alone among the ports that the agent gives for the service, those of its
containers and those of their processes. -/
theorem primaries_listen_iff (capacity : Nat) (history : List (UInt64 × Operation)) (id : String) :
    let node := (perform.run (empty capacity) history).1.fleet.node id
    ∀ service ∈ node.services, service.isPrimaryProxy = true →
      ∀ port, ServicePorts.IsWebPort node.proxyRoutes port →
        Taken port (service.ports.getD []) ∧
          (Listens port (service.ports.getD []) ↔
            ¬ Withheld port (ServicePorts.gathered node.containers
              (Container.ofIds node.containers service.associatedContainerIds) service)) := by
  intro node service listed primary port web
  have settled : node.Settled := (settled_later Snapshot.settled_empty history).node id
  rw [settled.ports_of_primary listed primary, taken_resolveHostIps, listens_resolveHostIps]
  exact ⟨ServicePorts.taken_ensureWeb web, ServicePorts.listens_ensureWeb web⟩

/-- A proxy for an encrypted route that takes UDP and TCP at the encrypted port, TCP behind another port of its
container. -/
theorem primaries_listen_iff_both_protocols :
    let document : Json := .object
      [("containers", .array [.object [("id", .string "c"), ("names", Json.texts ["nginx"]),
          ("ports", .array [.string "443:8443"])]]),
        ("proxyRoutes", .array [.object [("host", .string "a.test"), ("ssl", .bool true),
          ("targetService", .string "10.0.0.5:9000")]]),
        ("services", .array [.object [("name", .string "nginx"), ("ports", .array [.string "443/udp"])]])]
    let node := (perform.run (empty 5) [(1, .change (.update "n" document))]).1.fleet.node "n"
    ∃ service ∈ node.services, service.isPrimaryProxy = true ∧ ServicePorts.IsWebPort node.proxyRoutes 443 ∧
      (service.ports.getD []).map identity =
        [(some 443, some 443, "udp"), (some 443, some 8443, "tcp"), (some 80, some 80, "tcp")] ∧
      (Listens 443 (service.ports.getD []) ↔
        ¬ Withheld 443 (ServicePorts.gathered node.containers
          (Container.ofIds node.containers service.associatedContainerIds) service)) := by
  intro document node
  have encrypted : ∃ route ∈ node.proxyRoutes, route.ssl = true := by decide +kernel +zetaReduce
  have shown : ∃ service ∈ node.services, service.isPrimaryProxy = true ∧ (service.ports.getD []).map identity =
      [(some 443, some 443, "udp"), (some 443, some 8443, "tcp"), (some 80, some 80, "tcp")] := by
    decide +kernel +zetaReduce
  rcases shown with ⟨service, listed, primary, ports⟩
  have web : ServicePorts.IsWebPort node.proxyRoutes 443 := Or.inr ⟨rfl, encrypted⟩
  exact ⟨service, listed, primary, web, ports, (primaries_listen_iff 5 _ "n" service listed primary 443 web).2⟩

/-- A proxy for an encrypted route that also takes UDP at the encrypted port.  It is configured to listen there, and is
not shown to do so. -/
theorem encrypted_port_withheld :
    let document : Json := .object
      [("proxyRoutes", .array [.object [("host", .string "a.test"), ("ssl", .bool true),
          ("targetService", .string "10.0.0.5:9000")]]),
        ("services", .array [.object [("activeState", .string "active"), ("name", .string "nginx"),
          ("ports", .array [.string "443/udp"])]])]
    let node := (perform.run (empty 5) [(1, .change (.update "n" document))]).1.fleet.node "n"
    (∃ route ∈ node.proxyRoutes, route.ssl = true) ∧
      ∃ service ∈ node.services, service.isPrimaryProxy = true ∧
        (service.proxyConfiguration.map fun configuration => configuration.servers.map ProxyServer.listen) =
          some [["443 ssl", "80"]] ∧
        (service.ports.getD []).map identity = [(some 443, some 443, "udp"), (some 80, some 80, "tcp")] ∧
        ¬ Listens 443 (service.ports.getD []) := by
  intro document node
  refine ⟨?_, ?_⟩ <;> decide +kernel +zetaReduce

end Store
end Fleet
