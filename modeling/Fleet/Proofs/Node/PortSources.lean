import Fleet.Proofs.HostAddress
import Fleet.Proofs.Node.Ports

namespace Fleet

/-!
# Where the ports of a service come from

The ports of a service are put together from several lists, of which some count only at times, and every port is
listed once.  Which of two mappings of one port is kept depends on the order of the lists, but which ports there are
does not.  So every port that is shown has a reason, every reason shows, and no reason is of another kind than those
given here.  What the unit file asks for is no reason of its own: it counts when there is no other for any port.

The containers of a service are those that the node lists.  An id that stays associated with a service after its
container has gone gives no reason for anything.
-/

open PortMapping

namespace PortMapping

variable {ports : List PortMapping}

theorem eq_nil_iff_identity : ports = [] ↔ ∀ key, key ∉ ports.map identity := by
  rw [← List.eq_nil_iff_forall_not_mem, List.map_eq_nil_iff]

theorem map_identity_resolveHostIps (address : Option String) (ports : List PortMapping) :
    (resolveHostIps address ports).map identity = ports.map identity := by
  rw [resolveHostIps_eq, List.map_map]
  refine List.map_congr_left fun mapping _ => ?_
  rw [Function.comp_apply, shownAt]
  split <;> rfl

end PortMapping

/-! ## The containers of a service -/

namespace Container

variable {containers : List Container} {ids : List String}

/-- Where no two containers have one id, the containers of some ids are those whose id is one of them. -/
theorem mem_ofIds_iff (distinct : (containers.map Container.id).Nodup) {container : Container} :
    container ∈ ofIds containers ids ↔ container ∈ containers ∧ container.id ∈ ids := by
  constructor
  · intro member
    rcases List.mem_filterMap.1 member with ⟨id, listed, found⟩
    have sameId : container.id = id := by simpa using List.find?_some found
    exact ⟨ofIds_subset containers ids member, sameId ▸ listed⟩
  · rintro ⟨stored, associated⟩
    refine List.mem_filterMap.2 ⟨container.id, associated, ?_⟩
    cases found : ofId? containers container.id with
    | none =>
        have absent := List.find?_eq_none.1 found container (List.mem_reverse.2 stored)
        simp at absent
    | some other =>
        have otherStored := List.mem_reverse.1 (List.mem_of_find?_eq_some found)
        have sameId : other.id = container.id := by simpa using List.find?_some found
        rw [List.inj_on_of_nodup_map distinct otherStored stored sameId]

/-- Ids without a container make no difference. -/
theorem ofIds_filter (containers : List Container) (ids : List String) :
    ofIds containers (ids.filter fun id => containers.any fun container => container.id == id) =
      ofIds containers ids := by
  unfold ofIds
  rw [List.filterMap_filter]
  refine List.filterMap_congr fun id _ => ?_
  split
  · rfl
  · rename_i gone
    refine (List.find?_eq_none.2 fun container member fits => gone ?_).symm
    exact List.any_eq_true.2 ⟨container, List.mem_reverse.1 member, fits⟩

end Container

namespace Node

/-! ## Reasons -/

/-- A container of a node belongs to a service. -/
def Runs (node : Node) (service : Service) (container : Container) : Prop :=
  container ∈ node.containers ∧ container.id ∈ service.associatedContainerIds

/-- What agents tell of a node has a port for a service. -/
inductive Reported (node : Node) (service : Service) : Identity → Prop
  /-- The agent gives the port for the service itself. -/
  | declared {mapping : PortMapping} (given : mapping ∈ service.declaredPorts) : Reported node service mapping.identity
  /-- A container of the service has the port. -/
  | published {container : Container} {mapping : PortMapping} (own : node.Runs service container)
      (bound : mapping ∈ container.ports) : Reported node service mapping.identity
  /-- The service is up and has a container that does not publish what it is reached at, and a running container on
  the network of the host has the port and the process of a container of the service. -/
  | shared {silent own other : Container} {pid : UInt32} {mapping : PortMapping} (active : service.isActive = true)
      (silentOwn : node.Runs service silent) (quiet : silent.usesHostNetwork = true ∨ silent.ports = [])
      (isOwn : node.Runs service own) (process : own.pid = some pid) (listed : other ∈ node.containers)
      (sameProcess : other.pid = some pid) (running : other.isRunning = true) (host : other.usesHostNetwork = true)
      (bound : mapping ∈ other.ports) : Reported node service mapping.identity

/-- There is a reason for a service to have a port.  The primary proxy has the web ports, unless something else is at
their host ports. -/
inductive Justified (node : Node) (service : Service) : Identity → Prop
  | reported {key : Identity} (reported : node.Reported service key) : Justified node service key
  | web (primary : service.isPrimaryProxy = true) (free : ∀ key, node.Reported service key → key.1 ≠ some 80) :
      Justified node service (some 80, some 80, "tcp")
  | encrypted {route : Route} (primary : service.isPrimaryProxy = true) (served : route ∈ node.proxyRoutes)
      (ssl : route.ssl = true) (free : ∀ key, node.Reported service key → key.1 ≠ some 443) :
      Justified node service (some 443, some 443, "tcp")

end Node

/-! ## Every reason shows, and only reasons do -/

namespace ServicePorts

variable {containers linked : List Container} {ports : List PortMapping} {key : Identity}

theorem mem_identity_live_iff : key ∈ (live containers linked).map identity ↔
    ∃ own ∈ linked, ∃ pid, own.pid = some pid ∧ ∃ other ∈ containers, other.pid = some pid ∧
      other.isRunning = true ∧ other.usesHostNetwork = true ∧ ∃ mapping ∈ other.ports, mapping.identity = key := by
  have ofProcess : ∀ pid, key ∈ (ofProcess containers pid).map identity ↔
      ∃ other ∈ containers, other.pid = some pid ∧ other.isRunning = true ∧ other.usesHostNetwork = true ∧
        ∃ mapping ∈ other.ports, mapping.identity = key := by
    intro pid
    unfold ServicePorts.ofProcess
    rw [mem_identity_merge, List.map_nil, or_iff_right List.not_mem_nil, List.mem_map]
    simp only [List.mem_flatMap, List.mem_filter, Bool.and_eq_true, beq_iff_eq]
    constructor
    · rintro ⟨mapping, ⟨other, ⟨listed, ⟨sameProcess, running⟩, host⟩, bound⟩, same⟩
      exact ⟨other, listed, sameProcess, running, host, mapping, bound, same⟩
    · rintro ⟨other, listed, sameProcess, running, host, mapping, bound, same⟩
      exact ⟨mapping, ⟨other, ⟨listed, ⟨sameProcess, running⟩, host⟩, bound⟩, same⟩
  unfold live
  rw [List.map_flatMap]
  simp only [List.mem_flatMap, List.mem_filterMap, ofProcess]
  constructor
  · rintro ⟨pid, ⟨own, isOwn, process⟩, shared⟩
    exact ⟨own, isOwn, pid, process, shared⟩
  · rintro ⟨own, isOwn, pid, process, shared⟩
    exact ⟨pid, ⟨own, isOwn, process⟩, shared⟩

theorem mem_identity_ensure {port : UInt16} : key ∈ (ensure port ports).map identity ↔
    key ∈ ports.map identity ∨
      (∀ known ∈ ports.map identity, known.1 ≠ some port) ∧ key = (onHost port).identity := by
  have taken : (ports.any fun mapping => mapping.hostPort == some port) = true ↔
      ¬ ∀ known ∈ ports.map identity, known.1 ≠ some port := by
    simp [identity]
  unfold ensure
  by_cases free : ∀ known ∈ ports.map identity, known.1 ≠ some port
  · rw [if_neg fun given => taken.1 given free, List.map_append, List.mem_append, List.map_singleton,
      List.mem_singleton]
    exact or_congr_right (iff_and_self.2 fun _ => free)
  · rw [if_pos (taken.2 free)]
    exact (or_iff_left fun given => free given.1).symm

/-- The web ports are added one after the other, but neither is at the host port of the other. -/
theorem mem_identity_ensureWeb {routes : List Route} : key ∈ (ensureWeb routes ports).map identity ↔
    key ∈ ports.map identity ∨
      (∀ known ∈ ports.map identity, known.1 ≠ some 80) ∧ key = (some 80, some 80, "tcp") ∨
      (∃ route ∈ routes, route.ssl = true) ∧ (∀ known ∈ ports.map identity, known.1 ≠ some 443) ∧
        key = (some 443, some 443, "tcp") := by
  have web : ∀ key, key ∈ (ensure 80 ports).map identity ↔ key ∈ ports.map identity ∨
      (∀ known ∈ ports.map identity, known.1 ≠ some 80) ∧ key = (some 80, some 80, "tcp") :=
    fun _ => mem_identity_ensure
  have free : (∀ known ∈ (ensure 80 ports).map identity, known.1 ≠ some 443) ↔
      ∀ known ∈ ports.map identity, known.1 ≠ some 443 := by
    refine ⟨fun free known given => free known ((web known).2 (.inl given)), fun free known given => ?_⟩
    rcases (web known).1 given with given | ⟨_, rfl⟩
    · exact free known given
    · decide
  have served : routes.any Route.ssl = true ↔ ∃ route ∈ routes, route.ssl = true := List.any_eq_true
  unfold ensureWeb
  dsimp only
  by_cases ssl : ∃ route ∈ routes, route.ssl = true
  · rw [if_pos (served.2 ssl), mem_identity_ensure, web, free, or_assoc, and_iff_right ssl]
    rfl
  · rw [if_neg fun given => ssl (served.1 given), web]
    exact or_congr_right (or_iff_left fun given => ssl given.1).symm

/-- The ports of a service apart from the web ports. -/
def gathered (containers linked : List Container) (service : Service) : List PortMapping :=
  PortMapping.merge service.declaredPorts
    ((if needsLive linked service then live containers linked else []) ++ linked.flatMap Container.ports)

theorem observed_eq (routes : List Route) (service : Service) : observed containers routes linked service =
    if service.isPrimaryProxy then ensureWeb routes (gathered containers linked service)
    else gathered containers linked service := rfl

theorem needsLive_eq_true_iff {service : Service} : needsLive linked service = true ↔
    service.isActive = true ∧ ∃ container ∈ linked, container.usesHostNetwork = true ∨ container.ports = [] := by
  simp [needsLive, and_or_left, exists_or]

end ServicePorts

namespace Node

variable {node : Node} {service : Service} {key : Identity}

theorem mem_gathered_iff (distinct : (node.containers.map Container.id).Nodup) :
    key ∈ (ServicePorts.gathered node.containers
        (Container.ofIds node.containers service.associatedContainerIds) service).map identity ↔
      node.Reported service key := by
  have runs : ∀ container, container ∈ Container.ofIds node.containers service.associatedContainerIds ↔
      node.Runs service container := fun _ => Container.mem_ofIds_iff distinct
  unfold ServicePorts.gathered
  rw [mem_identity_merge, List.map_append, List.mem_append]
  constructor
  · rintro (declared | shared | published)
    · rcases List.mem_map.1 declared with ⟨mapping, given, rfl⟩
      exact .declared given
    · split at shared
      · rename_i needed
        rcases ServicePorts.needsLive_eq_true_iff.1 needed with ⟨active, silent, silentOwn, quiet⟩
        rcases ServicePorts.mem_identity_live_iff.1 shared with
          ⟨own, isOwn, pid, process, other, listed, sameProcess, running, host, mapping, bound, rfl⟩
        exact .shared active ((runs silent).1 silentOwn) quiet ((runs own).1 isOwn) process listed sameProcess running
          host bound
      · exact absurd shared List.not_mem_nil
    · rcases List.mem_map.1 published with ⟨mapping, inContainers, rfl⟩
      rcases List.mem_flatMap.1 inContainers with ⟨container, own, bound⟩
      exact .published ((runs container).1 own) bound
  · intro reported
    cases reported with
    | declared given => exact .inl (List.mem_map_of_mem given)
    | published own bound =>
        exact .inr (.inr (List.mem_map_of_mem (List.mem_flatMap.2 ⟨_, (runs _).2 own, bound⟩)))
    | shared active silentOwn quiet isOwn process listed sameProcess running host bound =>
        rw [if_pos (ServicePorts.needsLive_eq_true_iff.2 ⟨active, _, (runs _).2 silentOwn, quiet⟩)]
        exact .inr (.inl (ServicePorts.mem_identity_live_iff.2
          ⟨_, (runs _).2 isOwn, _, process, _, listed, sameProcess, running, host, _, bound, rfl⟩))

/-- What is observed of a service, before its unit file is looked at, is what there is a reason for. -/
theorem mem_observed_iff (distinct : (node.containers.map Container.id).Nodup) :
    key ∈ (ServicePorts.observed node.containers node.proxyRoutes
        (Container.ofIds node.containers service.associatedContainerIds) service).map identity ↔
      node.Justified service key := by
  rw [ServicePorts.observed_eq]
  by_cases primary : service.isPrimaryProxy = true
  · rw [if_pos primary, ServicePorts.mem_identity_ensureWeb]
    simp only [mem_gathered_iff distinct]
    constructor
    · rintro (reported | ⟨free, rfl⟩ | ⟨⟨route, served, ssl⟩, free, rfl⟩)
      · exact .reported reported
      · exact .web primary free
      · exact .encrypted primary served ssl free
    · intro justified
      cases justified with
      | reported reported => exact .inl reported
      | web _ free => exact .inr (.inl ⟨free, rfl⟩)
      | encrypted _ served ssl free => exact .inr (.inr ⟨⟨_, served, ssl⟩, free, rfl⟩)
  · rw [if_neg primary, mem_gathered_iff distinct]
    refine ⟨.reported, fun justified => ?_⟩
    cases justified with
    | reported reported => exact reported
    | web isPrimary _ => exact absurd isPrimary primary
    | encrypted isPrimary _ _ _ => exact absurd isPrimary primary

/-- What the unit file asks for counts when there is a reason for no port at all. -/
theorem mem_effective_iff (distinct : (node.containers.map Container.id).Nodup) (files : Unit.Files) :
    key ∈ (ServicePorts.effective node.containers files node.proxyRoutes
        (Container.ofIds node.containers service.associatedContainerIds) service).map identity ↔
      node.Justified service key ∨ (∀ other, ¬ node.Justified service other) ∧
        key ∈ (ServicePorts.fromUnitFile files service.name).map identity := by
  have observed : ∀ key, _ ↔ node.Justified service key := fun _ => mem_observed_iff distinct
  unfold ServicePorts.effective
  dsimp only
  split
  · rename_i empty
    rw [List.isEmpty_iff.1 empty] at observed
    have noReason : ∀ other, ¬ node.Justified service other := fun other given =>
      List.not_mem_nil ((observed other).2 given)
    exact ⟨fun asked => .inr ⟨noReason, asked⟩,
      fun given => given.elim (fun justified => absurd justified (noReason key)) And.right⟩
  · rename_i nonempty
    refine (observed key).trans (or_iff_left fun given => nonempty (List.isEmpty_iff.2 ?_)).symm
    exact eq_nil_iff_identity.2 fun other listed => given.1 other ((observed other).1 listed)

/-! ## The ports that are shown -/

/-- A node without the ids that services are associated with though no container has them. -/
def withoutGone (node : Node) : Node :=
  { node with services := node.services.map fun service =>
      { service with associatedContainerIds :=
          service.associatedContainerIds.filter fun id => node.containers.any fun container => container.id == id } }

theorem ports_withoutGone (node : Node) :
    node.withoutGone.enrich.services.map Service.ports = node.enrich.services.map Service.ports := by
  have sameContainers : ∀ ids : List String, ids.filter (fun id => node.containers.any fun container =>
      container.id == id) = ids.filter fun id => node.enrich.containers.any fun container => container.id == id := by
    intro ids
    refine List.filter_congr fun id _ => ?_
    unfold enrich
    rw [List.any_map]
    rfl
  have services : node.withoutGone.services.map (fun service => (enrichService node.enrich.containers node.files
      node.proxyRoutes (addressesOf node.resources).head? service).ports) =
      node.services.map fun service => (enrichService node.enrich.containers node.files
      node.proxyRoutes (addressesOf node.resources).head? service).ports := by
    unfold withoutGone
    rw [List.map_map]
    refine List.map_congr_left fun service _ => ?_
    rw [Function.comp_apply]
    unfold enrichService
    dsimp only
    rw [sameContainers, Container.ofIds_filter]
    rfl
  calc
    node.withoutGone.enrich.services.map Service.ports
      = node.withoutGone.services.map fun service => (enrichService node.enrich.containers node.files
          node.proxyRoutes (addressesOf node.resources).head? service).ports := List.map_map
    _ = node.services.map fun service => (enrichService node.enrich.containers node.files
          node.proxyRoutes (addressesOf node.resources).head? service).ports := services
    _ = node.enrich.services.map Service.ports := List.map_map.symm

/-- What the third pass shows for a service it also finds when it looks at its own result. -/
theorem ports_of_mem_enrich {service : Service} (listed : service ∈ node.enrich.services) :
    service.ports =
      let ports := PortMapping.resolveHostIps (addressesOf node.resources).head?
        (ServicePorts.effective node.enrich.containers node.files node.enrich.proxyRoutes
          (Container.ofIds node.enrich.containers service.associatedContainerIds) service)
      if ports.isEmpty then none else some ports := by
  rcases List.mem_map.1 listed with ⟨before, _, rfl⟩
  rfl

theorem distinct_enrich (distinct : (node.containers.map Container.id).Nodup) :
    (node.enrich.containers.map Container.id).Nodup := by
  have sameIds : node.enrich.containers.map Container.id = node.containers.map Container.id := List.map_map
  rw [sameIds]
  exact distinct

/-- In a node whose containers have different ids, the ports of a service after the third pass are those for which
there is a reason.  If there is a reason for none, they are those that its unit file asks for, and if there are none of
these either, the service has no list of ports.  Ids of containers that the node does not list make no difference. -/
theorem ports_justified (node : Node) (distinct : (node.containers.map Container.id).Nodup) :
    (∀ service ∈ node.enrich.services,
      let asked := ServicePorts.fromUnitFile node.files service.name
      (∀ key, key ∈ (service.ports.getD []).map identity ↔
        node.enrich.Justified service key ∨
          (∀ other, ¬ node.enrich.Justified service other) ∧ key ∈ asked.map identity) ∧
        (service.ports = none ↔ (∀ key, ¬ node.enrich.Justified service key) ∧ asked = []) ∧
        service.ports ≠ some []) ∧
      node.withoutGone.enrich.services.map Service.ports = node.enrich.services.map Service.ports := by
  refine ⟨fun service listed => ?_, ports_withoutGone node⟩
  intro asked
  have effective : ∀ key, _ ↔ node.enrich.Justified service key ∨
      (∀ other, ¬ node.enrich.Justified service other) ∧ key ∈ asked.map identity :=
    fun _ => mem_effective_iff (distinct_enrich distinct) node.files
  rw [ports_of_mem_enrich listed]
  generalize ServicePorts.effective node.enrich.containers _ _ _ service = ports at effective
  have empty : ports = [] ↔ (∀ key, ¬ node.enrich.Justified service key) ∧ asked = [] := by
    rw [eq_nil_iff_identity, eq_nil_iff_identity]
    simp only [effective, not_or]
    constructor
    · intro nothing
      have noReason := fun key => (nothing key).1
      exact ⟨noReason, fun key given => (nothing key).2 ⟨noReason, given⟩⟩
    · rintro ⟨noReason, nothingAsked⟩ key
      exact ⟨noReason key, fun given => nothingAsked key given.2⟩
  have resolved : (resolveHostIps (addressesOf node.resources).head? ports).isEmpty = true ↔ ports = [] := by
    rw [List.isEmpty_iff, resolveHostIps_eq, List.map_eq_nil_iff]
  dsimp only
  by_cases nothing : ports = []
  · rw [if_pos (resolved.2 nothing)]
    refine ⟨fun key => ?_, ⟨fun _ => empty.1 nothing, fun _ => rfl⟩, nofun⟩
    rw [← effective, nothing]
    rfl
  · rw [if_neg fun given => nothing (resolved.1 given)]
    refine ⟨fun key => ?_, ⟨nofun, fun given => absurd (empty.2 given) nothing⟩, fun given => ?_⟩
    · rw [Option.getD_some, map_identity_resolveHostIps, effective]
    · exact nothing (resolved.1 (List.isEmpty_iff.2 (Option.some.inj given)))

/-- The primary proxy of a node, with a container that publishes a port and one on the network of the host, whose
process another container shares.  A third container has gone. -/
theorem ports_justified_shared_process :
    let plain (id : String) : Container := ⟨id, [], "", "running", [], .empty, [], false, none, none, none, none⟩
    let containers : List Container :=
      [{ plain "a" with ports := [⟨some 8080, some 80, "tcp", none⟩] },
        { plain "b" with isHostNetwork := true, pid := some 7 },
        { plain "c" with isHostNetwork := true, pid := some 7, ports := [.onHost 9000] }]
    let service : Service := { Service.named "nginx" with
      activeState := "active", isPrimaryProxy := true, associatedContainerIds := ["a", "b", "gone"] }
    let node : Node := { unknown with
      containers := containers, services := [service], proxyRoutes := [⟨"a.test", "10.0.0.5:80", none, true⟩] }
    let shown : List Identity := [(some 9000, some 9000, "tcp"), (some 8080, some 80, "tcp"),
      (some 80, some 80, "tcp"), (some 443, some 443, "tcp")]
    (node.containers.map Container.id).Nodup ∧
      (∀ service ∈ node.enrich.services, (service.ports.getD []).map identity = shown) ∧
      (∀ service ∈ node.enrich.services, ∀ key ∈ shown, node.enrich.Justified service key) ∧
      node.withoutGone.enrich.services.map Service.ports = node.enrich.services.map Service.ports := by
  intro plain containers service node shown
  have distinct : (node.containers.map Container.id).Nodup := by decide +kernel
  have ports : ∀ service ∈ node.enrich.services, (service.ports.getD []).map identity = shown := by decide +kernel
  have notAsked : ServicePorts.fromUnitFile node.files "nginx" = [] := by decide +kernel
  have names : ∀ service ∈ node.enrich.services, service.name = "nginx" := by decide +kernel
  rcases ports_justified node distinct with ⟨justified, gone⟩
  refine ⟨distinct, ports, fun service listed key inShown => ?_, gone⟩
  rw [← ports service listed, (justified service listed).1, names service listed, notAsked] at inShown
  exact inShown.resolve_right fun given => List.not_mem_nil given.2

end Node
end Fleet
