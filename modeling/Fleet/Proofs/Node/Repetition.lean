import Fleet.Proofs.Node.Associations
import Mathlib.Data.List.Nodup

namespace Fleet

/-!
# A report that has nothing new to say

A report that arrives a second time finds the node as the first time left it.  What it replaces, it replaces
by the same; what was derived is derived from the same.  The one part of a node that a report adds to, and
does not replace, are the containers of the services.  Whether the second time changes anything is therefore
a question about these alone: whether every service of the report ends up with the containers that it ended
up with before.

Two answers are given.  When the services of the report have different names, each finds its own containers
again, in their order, and adds nothing.  When several have one name, all of them take over the containers
of the first, which the first time were those known before, and from the second time on are settled.
-/

namespace Association

/-- The containers that a reported service ends up with: its own, those known before, and those for which
there is evidence. -/
def joined (containers : List Container) (files : Unit.Files) (previous : List Service) (service : Service) :
    List String :=
  addAll (addAll service.associatedContainerIds ((known? previous service.name).getD []))
    (evidence containers files service.name)

theorem link_carryOver (containers : List Container) (files : Unit.Files) (previous incoming : List Service) :
    link containers files (carryOver previous incoming) =
      incoming.map fun service =>
        { service with associatedContainerIds := joined containers files previous service } := by
  unfold link
  rw [carryOver_eq, List.map_map]
  rfl

/-- Taking over what was put together before, and the same evidence, puts the same together. -/
theorem addAll_joined (ids known found : List String) :
    addAll (addAll ids (addAll (addAll ids known) found)) found = addAll (addAll ids known) found := by
  have together : addAll (addAll ids known) found = addAll ids (known ++ found) :=
    (addAll_append ids known found).symm
  have again : addAll ids (addAll (addAll ids known) found) = addAll (addAll ids known) found := by
    rw [together, addAll_addAll_self]
  rw [again]
  exact addAll_eq_self fun id member => mem_addAll.2 (Or.inr member)

/-- Of services with different names, the one found under a name is the one that has it. -/
theorem known?_of_nodup {services : List Service} (different : (services.map Service.name).Nodup)
    {service : Service} (member : service ∈ services) :
    known? services service.name = some service.associatedContainerIds := by
  unfold known?
  cases found : services.find? fun other => other.name == service.name with
  | none =>
      have absent := List.find?_eq_none.1 found service member
      simp at absent
  | some other =>
      have sameName : other.name = service.name := by simpa using List.find?_some found
      rw [List.inj_on_of_nodup_map different (List.mem_of_find?_eq_some found) member sameName]
      rfl

end Association

namespace Node

/-- A node as if its last report had arrived at a given time. -/
def syncedAt (node : Node) (now : UInt64) : Node :=
  { node with lastSync := now }

/-- A report after which every service that it names ends up with the containers that it ends up with when
the report arrives again. -/
def Absorbed (report : Report) (now : UInt64) (node : Node) : Prop :=
  ∀ services, report.services = some services → ∀ service ∈ services,
    Association.joined (node.merge report).containers (node.merge report).files
        (node.receive now report).services service =
      Association.joined (node.merge report).containers (node.merge report).files node.services service

/-- A report that changes nothing at a node any more but the time of the last report, domains aside. -/
def Steady (report : Report) (node : Node) : Prop :=
  ∀ now, (node.receive now report).withoutDomains = (node.syncedAt now).withoutDomains

variable {report : Report} {node : Node} {now : UInt64}

/-! ## When nothing is added -/

theorem known?_receive_of_services {services : List Service} (given : report.services = some services)
    (node : Node) (now : UInt64) (name : String) :
    Association.known? (node.receive now report).services name =
      (Association.known? services name).map fun ids =>
        addAll (addAll ids ((Association.known? node.services name).getD []))
          (Association.evidence (node.merge report).containers (node.merge report).files name) := by
  rw [known?_receive, given, Option.map_map]
  rfl

private theorem getD_getD {α : Type} (given : Option α) (value : α) :
    given.getD (given.getD value) = given.getD value := by
  cases given <;> rfl

theorem files_merge_receive (report : Report) (node : Node) (now : UInt64) :
    ((node.receive now report).merge report).files = (node.merge report).files :=
  getD_getD report.files node.files

/-- The evidence is the same when the report arrives again, from containers that were stored or replaced. -/
theorem evidence_merge_receive (report : Report) (node : Node) (now : UInt64) (name : String) :
    Association.evidence ((node.receive now report).merge report).containers
        ((node.receive now report).merge report).files name =
      Association.evidence (node.merge report).containers (node.merge report).files name := by
  rw [files_merge_receive]
  cases given : report.containers with
  | none =>
      have kept : ((node.receive now report).merge report).containers =
          (node.receive now report).containers := by
        simp only [merge, given, Option.getD_none]
      rw [kept]
      exact evidence_receive now report node name
  | some containers =>
      have replaced : ∀ any : Node, (any.merge report).containers = containers := by
        intro any
        simp only [merge, given, Option.getD_some]
      rw [replaced, replaced]

theorem absorbed_of_nodup
    (different : ∀ services, report.services = some services → (services.map Service.name).Nodup)
    (now : UInt64) (node : Node) : node.Absorbed report now := by
  intro services given service member
  unfold Association.joined
  rw [known?_receive_of_services given, Association.known?_of_nodup (different services given) member]
  exact Association.addAll_joined _ _ _

/-- After a report every service of a name ends up with what is known under the name, and that stays. -/
theorem absorbed_receive (report : Report) (first second : UInt64) (node : Node) :
    (node.receive first report).Absorbed report second := by
  intro services given service _
  have sameKnown : Association.known? ((node.receive first report).receive second report).services
      service.name = Association.known? (node.receive first report).services service.name := by
    rw [known?_receive_of_services given, evidence_merge_receive, known?_receive_of_services given]
    cases Association.known? services service.name with
    | none => rfl
    | some ids => exact congrArg some (Association.addAll_joined _ _ _)
  unfold Association.joined
  rw [sameKnown]

/-! ## When nothing is added, nothing changes -/

/-- The time of the last report has no part in what is derived. -/
theorem Settled.syncedAt {node : Node} (settled : node.Settled) (now : UInt64) :
    (node.syncedAt now).Settled where
  link := congrArg (fun same : Node => same.syncedAt now) settled.link
  resolveProxies := congrArg (fun same : Node => same.syncedAt now) settled.resolveProxies
  enrich := congrArg (fun same : Node => same.syncedAt now) settled.enrich

/-- The inputs of a node after a report. -/
theorem withoutDerived_receive (report : Report) (node : Node) (now : UInt64) :
    (node.receive now report).withoutDerived =
      { connected := true
        lastSync := now
        initialSyncComplete := (node.merge report).initialSyncComplete
        resources := (node.merge report).resources
        containers := ((node.merge report).containers.map
          (resolveContainer (addressesOf (node.merge report).resources).head?)).map Container.withoutDomains
        services := (Association.link (node.merge report).containers (node.merge report).files
          (node.merge report).services).map Service.withoutDerived
        volumes := (node.merge report).volumes
        files := (node.merge report).files
        proxyRoutes := (node.merge report).proxyRoutes
        nodeIps := [] } :=
  withoutDerived_reconcile _

/-- Containers that come again are resolved to the same address, and those that stay are resolved already. -/
theorem containers_merge_receive (report : Report) (node : Node) (now : UInt64) :
    (((node.receive now report).merge report).containers.map
        (resolveContainer (addressesOf (node.merge report).resources).head?)) =
      (node.merge report).containers.map
        (resolveContainer (addressesOf (node.merge report).resources).head?) := by
  cases given : report.containers with
  | none =>
      have kept : ((node.receive now report).merge report).containers =
          (node.receive now report).containers := by
        simp only [merge, given, Option.getD_none]
      have stored : (node.receive now report).containers = (node.merge report).containers.map
          (resolveContainer (addressesOf (node.merge report).resources).head?) := rfl
      rw [kept, stored, map_resolveContainer_map, PortMapping.held_self]
  | some containers => simp only [merge, given, Option.getD_some]

theorem services_merge_receive (absorbed : node.Absorbed report now) :
    (Association.link ((node.receive now report).merge report).containers
        ((node.receive now report).merge report).files
        ((node.receive now report).merge report).services).map Service.withoutDerived =
      (Association.link (node.merge report).containers (node.merge report).files
        (node.merge report).services).map Service.withoutDerived := by
  have sameEvidence : ∀ services, Association.link ((node.receive now report).merge report).containers
      ((node.receive now report).merge report).files services =
      Association.link (node.merge report).containers (node.merge report).files services := by
    intro services
    unfold Association.link
    simp only [evidence_merge_receive]
  rw [sameEvidence]
  cases given : report.services with
  | none =>
      have kept : ((node.receive now report).merge report).services = (node.receive now report).services := by
        simp only [merge, given]
      have linked : (node.receive now report).services.map Service.withoutDerived =
          (Association.link (node.merge report).containers (node.merge report).files
            (node.merge report).services).map Service.withoutDerived :=
        congrArg Node.services (withoutDerived_receive report node now)
      rw [kept, ← Association.link_withoutDerived, linked, Association.link_withoutDerived,
        Association.link_link]
  | some services =>
      have carried : ∀ any : Node, (any.merge report).services =
          Association.carryOver any.services services := by
        intro any
        simp only [merge, given]
      rw [carried, carried, Association.link_carryOver, Association.link_carryOver]
      congr 1
      refine List.map_congr_left fun service member => ?_
      rw [absorbed services given service member]

/-- When the services end up with the same containers, the report changes nothing the second time. -/
theorem steady_receive (absorbed : node.Absorbed report now) : Steady report (node.receive now report) := by
  intro later
  have settled := (settled_receive now report node).syncedAt later
  refine (settled_receive later report _).eq_of_withoutDerived settled ?_
  have resources : ((node.receive now report).merge report).resources = (node.merge report).resources := by
    change report.resources.or (report.resources.or node.resources) = report.resources.or node.resources
    rw [← Option.or_assoc, Option.or_self]
  have completion : ((node.receive now report).merge report).initialSyncComplete =
      (node.merge report).initialSyncComplete := getD_getD report.initialSyncComplete node.initialSyncComplete
  have volumes : ((node.receive now report).merge report).volumes = (node.merge report).volumes :=
    getD_getD report.volumes node.volumes
  have routes : ((node.receive now report).merge report).proxyRoutes = (node.merge report).proxyRoutes :=
    getD_getD report.proxyRoutes node.proxyRoutes
  calc
    ((node.receive now report).receive later report).withoutDerived
      = { (node.receive now report).withoutDerived with lastSync := later } := by
        rw [withoutDerived_receive, withoutDerived_receive, resources, completion, volumes, routes,
          containers_merge_receive, services_merge_receive absorbed, files_merge_receive]
    _ = ((node.receive now report).syncedAt later).withoutDerived := rfl

/-- A report whose services have different names changes nothing the second time. -/
theorem steady_receive_of_nodup
    (different : ∀ services, report.services = some services → (services.map Service.name).Nodup)
    (now : UInt64) (node : Node) : Steady report (node.receive now report) :=
  steady_receive (absorbed_of_nodup different now node)

/-- Any report changes nothing the third time. -/
theorem steady_receive_receive (report : Report) (first second : UInt64) (node : Node) :
    Steady report ((node.receive first report).receive second report) :=
  steady_receive (absorbed_receive report first second node)

/-- Whether a report changes nothing does not depend on the domains of the node. -/
theorem Steady.congr {other : Node} (steady : node.Steady report)
    (same : node.withoutDomains = other.withoutDomains) : other.Steady report := by
  intro later
  calc
    (other.receive later report).withoutDomains
      = (node.receive later report).withoutDomains := by
        rw [← receive_withoutDomains, ← same, receive_withoutDomains]
    _ = (node.syncedAt later).withoutDomains := steady later
    _ = (other.syncedAt later).withoutDomains := congrArg (fun any : Node => any.syncedAt later) same

end Node
end Fleet
