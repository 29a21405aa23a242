import Fleet.Proofs.Node.Derived

namespace Fleet

/-!
# The address of a wildcard

A port that is bound to every address of a host is shown at the first address of its node.  For a service
this is found anew at every report, from the ports that were declared.  For a container it is not: the
address is written over the wildcard, in the container that is stored, and a later report finds a port with
an address of its own.  So a node whose address changes keeps its old one in the ports of its containers,
and in those that services have from them, until the containers are listed again.

Here it is told what the ports of a node are for any reports: those that were listed last, shown at an
address that depends on the reports that came after them.  And it is told when this is the address that the
node has now, which is what is wanted of them.  An address may itself be spelled like a wildcard, and is then
no hindrance to the next one.
-/

namespace Node

/-- Containers look alike at two addresses exactly when each wildcard does. -/
theorem map_resolveContainer_eq_iff {first second : Option String} {containers : List Container} :
    (containers.map (resolveContainer first)).map Container.withoutDomains =
        (containers.map (resolveContainer second)).map Container.withoutDomains ↔
      ∀ container ∈ containers, ∀ mapping ∈ container.ports,
        PortMapping.isUnspecified mapping.hostIp = true →
          first.or mapping.hostIp = second.or mapping.hostIp := by
  have samePorts : ∀ container : Container,
      (resolveContainer first container).withoutDomains = (resolveContainer second container).withoutDomains ↔
        ∀ mapping ∈ container.ports, PortMapping.isUnspecified mapping.hostIp = true →
          first.or mapping.hostIp = second.or mapping.hostIp := by
    intro container
    simp only [← PortMapping.shownAt_eq_iff, ← List.map_inj_left, ← PortMapping.resolveHostIps_eq]
    constructor
    · intro same
      exact congrArg Container.ports same
    · intro same
      unfold resolveContainer
      rw [same]
  rw [List.map_map, List.map_map, List.map_inj_left]
  exact forall₂_congr fun container _ => samePorts container

/-- What the reports of a node come to, as far as the addresses of its ports go. -/
structure Account where
  /-- The containers as they were listed last. -/
  listed : List Container
  resources : Option SystemResources
  /-- The address at which their wildcards are shown. -/
  shown : Option String

namespace Account

def silent : Account :=
  ⟨[], none, none⟩

/-- The account after one more report.  Containers that are listed are shown at the address that the node has
then; of those that were listed before, only wildcards that are left take a new address. -/
def after (account : Account) (report : Report) : Account :=
  let resources := report.resources.or account.resources
  let address := (addressesOf resources).head?
  match report.containers with
  | some containers => ⟨containers, resources, address⟩
  | none => ⟨account.listed, resources, PortMapping.held account.shown address⟩

/-- The account that reports come to, one after the other. -/
def ofReports (reports : List Report) : Account :=
  reports.foldl after silent

theorem ofReports_append (reports : List Report) (report : Report) :
    ofReports (reports ++ [report]) = (ofReports reports).after report :=
  List.foldl_append

/-- A node has the containers of the account, each wildcard at the address at which it is shown. -/
structure Describes (account : Account) (node : Node) : Prop where
  resources : node.resources = account.resources
  containers : node.containers.map Container.withoutDomains =
    (account.listed.map (resolveContainer account.shown)).map Container.withoutDomains

theorem describes_silent : silent.Describes unknown :=
  ⟨rfl, rfl⟩

variable {account : Account} {node : Node}

theorem Describes.receive (describes : account.Describes node) (now : UInt64) (report : Report) :
    (account.after report).Describes (node.receive now report) := by
  have resources : (node.merge report).resources = report.resources.or account.resources :=
    congrArg report.resources.or describes.resources
  have containers : (node.receive now report).containers = (node.merge report).containers.map
      (resolveContainer (addressesOf (report.resources.or account.resources)).head?) := by
    rw [← resources]
    rfl
  cases given : report.containers with
  | some listed =>
      have accounted : account.after report = ⟨listed, report.resources.or account.resources,
          (addressesOf (report.resources.or account.resources)).head?⟩ := by
        simp only [after, given]
      have replaced : (node.merge report).containers = listed := by
        simp only [merge, given, Option.getD_some]
      rw [accounted]
      exact ⟨resources, by rw [containers, replaced]⟩
  | none =>
      have accounted : account.after report = ⟨account.listed, report.resources.or account.resources,
          PortMapping.held account.shown
            (addressesOf (report.resources.or account.resources)).head?⟩ := by
        simp only [after, given]
      have kept : (node.merge report).containers = node.containers := by
        simp only [merge, given, Option.getD_none]
      rw [accounted]
      refine ⟨resources, ?_⟩
      rw [containers, kept, ← map_resolveContainer_withoutDomains, describes.containers,
        map_resolveContainer_withoutDomains, map_resolveContainer_map]

theorem Describes.mapNode (describes : account.Describes node) (index : Domain.Index) :
    account.Describes (Domain.mapNode index node) where
  resources := describes.resources
  containers := (congrArg Node.containers (withoutDomains_mapNode index node)).trans describes.containers

end Account

/-! ## The address that a node has now -/

/-- A node with the containers that were listed, as they were listed. -/
def withListed (listed : List Container) (node : Node) : Node :=
  { node with containers := listed }

/-- The ports of a node are what they should be for containers that were listed: those of the containers are
as listed, with the address that the node has now, if it has one, in place of wildcards; and those of the
services are what follows from the listed containers. -/
structure Follows (node : Node) (listed : List Container) : Prop where
  containers : node.containers.map Container.withoutDomains =
    (listed.map (resolveContainer node.nodeIps.head?)).map Container.withoutDomains
  services : node.services.map Service.ports =
    (node.withListed listed).reconcile.services.map Service.ports

theorem Settled.nodeIps {node : Node} (settled : node.Settled) : addressesOf node.resources = node.nodeIps :=
  congrArg Node.nodeIps settled.enrich

/-- Where the containers are as they should be, everything that is derived is. -/
theorem Settled.eq_reconcile_withListed {node : Node} (settled : node.Settled) {listed : List Container}
    (containers : node.containers.map Container.withoutDomains =
      (listed.map (resolveContainer node.nodeIps.head?)).map Container.withoutDomains) :
    node.withoutDomains = (node.withListed listed).reconcile.withoutDomains := by
  have services : (node.withListed listed).link.services = node.services :=
    calc
      Association.link listed node.files node.services
        = Association.link ((listed.map (resolveContainer node.nodeIps.head?)).map Container.withoutDomains)
            node.files node.services := by
          rw [Association.link_map keepsIdentity_withoutDomains,
            Association.link_map (keepsIdentity_resolveContainer _)]
      _ = Association.link node.containers node.files node.services := by
          rw [← containers, Association.link_map keepsIdentity_withoutDomains]
      _ = node.services := congrArg Node.services settled.link
  refine settled.eq_of_withoutDerived (settled_reconcile _) ?_
  rw [withoutDerived_reconcile]
  unfold withoutDerived
  rw [services, containers, ← settled.nodeIps]
  rfl

theorem Settled.follows_iff {node : Node} (settled : node.Settled) {listed : List Container} :
    node.Follows listed ↔ node.containers.map Container.withoutDomains =
      (listed.map (resolveContainer node.nodeIps.head?)).map Container.withoutDomains := by
  constructor
  · intro follows
    exact follows.containers
  · intro containers
    refine ⟨containers, ?_⟩
    have derived := congrArg (fun same : Node => same.services.map Service.ports)
      (settled.eq_reconcile_withListed containers)
    simpa [withoutDomains, Function.comp_def, Service.withoutDomains] using derived

/-- The ports of a node are what they should be exactly when every wildcard of the listed containers is shown
at the address that the node has now. -/
theorem Account.Describes.follows_iff {account : Account} {node : Node} (describes : account.Describes node)
    (settled : node.Settled) :
    node.Follows account.listed ↔
      ∀ container ∈ account.listed, ∀ mapping ∈ container.ports,
        PortMapping.isUnspecified mapping.hostIp = true →
          account.shown.or mapping.hostIp = node.nodeIps.head?.or mapping.hostIp := by
  rw [settled.follows_iff, ← map_resolveContainer_eq_iff, ← describes.containers]

end Node
end Fleet
