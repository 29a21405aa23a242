import Fleet.Node.Derivation
import Fleet.Proofs.HostAddress

namespace Fleet

/-!
# What the passes over a node settle

Deriving everything anew from what was derived already has to change nothing.  The three passes are not
independent: the first two read containers that the third rewrites, and all of them read and write the
services.  What makes the result a fixed point of every single pass is that each reads nothing that a later
one changes.  The first two look at the identity of a container, at its names, its image and its labels,
and never at its ports; and resolving an address that is resolved leaves it alone.

The facts about containers are stated for any change that keeps the identity of a container.  Resolving
addresses is one; taking away the domains of the fleet is another.
-/

namespace Container

/-- A change of containers that touches nothing but their ports and their domains. -/
def KeepsIdentity (change : Container → Container) : Prop :=
  ∀ container, { change container with
    ports := container.ports, verifiedDomains := container.verifiedDomains } = container

variable {change : Container → Container}

/-- Whatever is seen of a container apart from ports and domains is the same after such a change. -/
theorem KeepsIdentity.view_eq (keeps : KeepsIdentity change) {β : Type} {view : Container → β}
    (indifferent : ∀ container ports domains,
      view { container with ports := ports, verifiedDomains := domains } = view container)
    (container : Container) : view (change container) = view container :=
  calc
    view (change container) = view { change container with
        ports := container.ports, verifiedDomains := container.verifiedDomains } :=
      (indifferent (change container) _ _).symm
    _ = view container := congrArg view (keeps container)

theorem KeepsIdentity.id_eq (keeps : KeepsIdentity change) (container : Container) :
    (change container).id = container.id :=
  keeps.view_eq (fun _ _ _ => rfl) container

theorem KeepsIdentity.comp {second : Container → Container} (secondKeeps : KeepsIdentity second)
    (keeps : KeepsIdentity change) : KeepsIdentity (second ∘ change) := by
  intro container
  calc
    { second (change container) with ports := container.ports, verifiedDomains := container.verifiedDomains }
      = { { second (change container) with
            ports := (change container).ports, verifiedDomains := (change container).verifiedDomains } with
          ports := container.ports, verifiedDomains := container.verifiedDomains } := rfl
    _ = { change container with ports := container.ports, verifiedDomains := container.verifiedDomains } := by
        rw [secondKeeps (change container)]
    _ = container := keeps container

theorem ofId?_map (keeps : KeepsIdentity change) (containers : List Container) (id : String) :
    ofId? (containers.map change) id = (ofId? containers id).map change := by
  unfold ofId?
  rw [← List.map_reverse, List.find?_map]
  congr 2
  funext container
  rw [Function.comp_apply, keeps.id_eq]

/-- Changing the containers before or after picking those of a service is the same. -/
theorem ofIds_map (keeps : KeepsIdentity change) (containers : List Container) (ids : List String) :
    ofIds (containers.map change) ids = (ofIds containers ids).map change := by
  unfold ofIds
  rw [List.map_filterMap]
  congr 1
  funext id
  exact ofId?_map keeps containers id

end Container

/-! ## Association -/

namespace Association

variable {change : Container → Container}

theorem evidence_map (keeps : Container.KeepsIdentity change) (containers : List Container)
    (files : Unit.Files) (service : String) :
    evidence (containers.map change) files service = evidence containers files service := by
  unfold evidence
  have sameEvidence : evidenced files service ∘ change = evidenced files service :=
    funext (keeps.view_eq fun _ _ _ => rfl)
  have sameId : Container.id ∘ change = Container.id := funext keeps.id_eq
  rw [List.filter_map, sameEvidence, List.map_map, sameId]

theorem link_map (keeps : Container.KeepsIdentity change) (containers : List Container) (files : Unit.Files)
    (services : List Service) :
    link (containers.map change) files services = link containers files services := by
  unfold link
  simp only [evidence_map keeps]

/-- Every service has all containers for which there is evidence. -/
def Complete (containers : List Container) (files : Unit.Files) (services : List Service) : Prop :=
  ∀ service ∈ services, ∀ id ∈ evidence containers files service.name,
    id ∈ service.associatedContainerIds

theorem complete_link (containers : List Container) (files : Unit.Files) (services : List Service) :
    Complete containers files (link containers files services) := by
  intro linked member id evident
  rcases List.mem_map.1 member with ⟨service, _, rfl⟩
  exact mem_addAll.2 (Or.inr evident)

theorem link_eq_self {containers : List Container} {files : Unit.Files} {services : List Service}
    (complete : Complete containers files services) : link containers files services = services := by
  have unchanged : ∀ service ∈ services,
      extend service (evidence containers files service.name) = service := by
    intro service member
    unfold extend
    rw [addAll_eq_self (complete service member)]
  exact (List.map_congr_left unchanged).trans (List.map_id' services)

end Association

/-! ## Proxies -/

namespace ProxyRole

variable {change : Container → Container}

theorem assess_map (keeps : Container.KeepsIdentity change) (containers : List Container)
    (files : Unit.Files) : assess (containers.map change) files = assess containers files := by
  funext service
  have sameProxy : showsProxy ∘ change = showsProxy :=
    funext (keeps.view_eq fun _ _ _ => rfl)
  have sameManagement : showsManagement ∘ change = showsManagement :=
    funext (keeps.view_eq fun _ _ _ => rfl)
  simp only [assess, isProxy, isManagement, Container.ofIds_map keeps, List.any_map, sameProxy,
    sameManagement]

/-- What counts of a service in the election: its rank, if it stands. -/
def candidacy (service : Service) : Option Nat :=
  if service.isReverseProxy then some (rank service) else none

/-- The election asks for nothing but the candidacies in their order. -/
theorem primary?_eq (services : List Service) :
    primary? services =
      [0, 1, 2, 3].findSome? fun best =>
        (services.map candidacy).findIdx? fun given => given == some best := by
  unfold primary?
  congr 1
  funext best
  rw [List.findIdx?_map]
  congr 1
  funext service
  rw [Function.comp_apply, candidacy]
  cases service.isReverseProxy <;> rfl

/-- What does not depend on who is elected is the same after the election. -/
theorem map_elect {β : Type} {view : Service → β}
    (indifferent : ∀ service flag, view { service with isPrimaryProxy := flag } = view service)
    (services : List Service) : (elect services).map view = services.map view := by
  apply List.ext_getElem?
  intro place
  simp only [elect, List.getElem?_map, List.getElem?_mapIdx, Option.map_map]
  congr 1
  funext service
  exact indifferent service _

theorem primary?_map {adapt : Service → Service}
    (sameCandidacy : ∀ service, candidacy (adapt service) = candidacy service) (services : List Service) :
    primary? (services.map adapt) = primary? services := by
  have same : candidacy ∘ adapt = candidacy := funext sameCandidacy
  rw [primary?_eq, primary?_eq, List.map_map, same]

theorem primary?_elect (services : List Service) : primary? (elect services) = primary? services := by
  rw [primary?_eq, primary?_eq, map_elect fun _ _ => rfl]

theorem mem_elect {services : List Service} {elected : Service} (member : elected ∈ elect services) :
    ∃ service ∈ services, ∃ flag, elected = { service with isPrimaryProxy := flag } := by
  rcases List.mem_mapIdx.1 member with ⟨place, inside, rfl⟩
  exact ⟨services[place], List.getElem_mem inside, _, rfl⟩

/-- Changing the services before or after the election is the same, when the change neither reads nor
writes what the election is about. -/
theorem elect_map (adapt : Service → Service)
    (sameCandidacy : ∀ service, candidacy (adapt service) = candidacy service)
    (commutes : ∀ service flag,
      { adapt service with isPrimaryProxy := flag } = adapt { service with isPrimaryProxy := flag })
    (services : List Service) : elect (services.map adapt) = (elect services).map adapt := by
  have samePrimary : primary? (services.map adapt) = primary? services := primary?_map sameCandidacy services
  apply List.ext_getElem?
  intro place
  simp only [elect, samePrimary, List.getElem?_map, List.getElem?_mapIdx, Option.map_map]
  congr 1
  funext service
  exact commutes service _

theorem mem_resolve {containers : List Container} {files : Unit.Files} {services : List Service}
    {resolved : Service} (member : resolved ∈ resolve containers files services) :
    ∃ service ∈ services, ∃ flag,
      resolved = { assess containers files service with isPrimaryProxy := flag } := by
  rcases mem_elect member with ⟨assessed, assessedMember, flag, rfl⟩
  rcases List.mem_map.1 assessedMember with ⟨service, serviceMember, rfl⟩
  exact ⟨service, serviceMember, flag, rfl⟩

theorem elect_elect (services : List Service) : elect (elect services) = elect services := by
  have samePrimary := primary?_elect services
  apply List.ext_getElem?
  intro place
  simp only [elect, List.getElem?_mapIdx, Option.map_map] at samePrimary ⊢
  rw [samePrimary]
  rfl

/-- The election changes nothing exactly when the flags tell who is the primary one. -/
theorem elect_eq_self_iff {services : List Service} :
    elect services = services ↔ ∀ place service, services[place]? = some service →
      service.isPrimaryProxy = (primary? services == some place) := by
  have unfolded : elect services = services ↔ ∀ place : Nat, services[place]? =
      services[place]?.map fun service =>
        { service with isPrimaryProxy := primary? services == some place } :=
    List.mapIdx_eq_iff
  rw [unfolded]
  constructor
  · intro unchanged place service found
    have here := unchanged place
    rw [found] at here
    exact congrArg Service.isPrimaryProxy (Option.some.inj here)
  · intro flags place
    cases found : services[place]? with
    | none => rfl
    | some service =>
        rw [Option.map_some, ← flags place service found]

/-- An election that is settled stays settled when the services change in nothing that it is about. -/
theorem elect_map_eq_self {adapt : Service → Service} {services : List Service}
    (sameCandidacy : ∀ service, candidacy (adapt service) = candidacy service)
    (sameFlag : ∀ service, (adapt service).isPrimaryProxy = service.isPrimaryProxy)
    (elected : elect services = services) : elect (services.map adapt) = services.map adapt := by
  have samePrimary : primary? (services.map adapt) = primary? services := primary?_map sameCandidacy services
  rw [elect_eq_self_iff] at elected ⊢
  intro place adapted found
  rw [List.getElem?_map] at found
  rcases Option.map_eq_some_iff.1 found with ⟨service, serviceFound, rfl⟩
  rw [sameFlag, samePrimary]
  exact elected place service serviceFound

/-- When the flags of every service are right and the right one is elected, finding the proxies again
changes nothing. -/
theorem resolve_eq_self {containers : List Container} {files : Unit.Files} {services : List Service}
    (assessed : ∀ service ∈ services, assess containers files service = service)
    (elected : elect services = services) : resolve containers files services = services := by
  have unchanged : services.map (assess containers files) = services :=
    (List.map_congr_left assessed).trans (List.map_id' services)
  rw [resolve, unchanged, elected]

end ProxyRole

/-! ## The third pass -/

namespace Node

theorem keepsIdentity_resolveContainer (nodeIp : Option String) :
    Container.KeepsIdentity (resolveContainer nodeIp) :=
  fun _ => rfl

/-- Resolving for one address and then for another is resolving for the one that is held. -/
theorem map_resolveContainer_map (first second : Option String) (containers : List Container) :
    (containers.map (resolveContainer first)).map (resolveContainer second) =
      containers.map (resolveContainer (PortMapping.held first second)) := by
  rw [List.map_map]
  refine List.map_congr_left fun container _ => ?_
  rw [Function.comp_apply]
  unfold resolveContainer
  rw [PortMapping.resolveHostIps_resolveHostIps]

theorem enrich_enrich (node : Node) : node.enrich.enrich = node.enrich := by
  have sameContainers : node.enrich.containers.map (resolveContainer (addressesOf node.resources).head?) =
      node.enrich.containers := by
    change (node.containers.map _).map _ = node.containers.map _
    rw [map_resolveContainer_map, PortMapping.held_self]
  have sameServices : node.enrich.services.map
      (enrichService node.enrich.containers node.files node.proxyRoutes (addressesOf node.resources).head?) =
      node.enrich.services := by
    change (node.services.map _).map _ = node.services.map _
    rw [List.map_map]
    exact List.map_congr_left fun service _ => rfl
  unfold enrich at sameContainers sameServices ⊢
  simp only [sameContainers, sameServices]

/-- Deriving anew changes nothing: each of the three passes leaves the node as it is. -/
structure Settled (node : Node) : Prop where
  link : node.link = node
  resolveProxies : node.resolveProxies = node
  enrich : node.enrich = node

theorem settled_unknown : unknown.Settled :=
  ⟨rfl, rfl, rfl⟩

/-- The third pass has nothing to do for a service of a settled node, whose containers it leaves alone too. -/
theorem Settled.enrichService_eq {node : Node} (settled : node.Settled) {service : Service}
    (listed : service ∈ node.services) :
    enrichService node.containers node.files node.proxyRoutes (addressesOf node.resources).head? service =
      service := by
  have containers : node.containers.map (resolveContainer (addressesOf node.resources).head?) = node.containers :=
    congrArg Node.containers settled.enrich
  have enriched : node.services.map (enrichService
      (node.containers.map (resolveContainer (addressesOf node.resources).head?)) node.files node.proxyRoutes
      (addressesOf node.resources).head?) = node.services := congrArg Node.services settled.enrich
  rw [containers] at enriched
  exact List.map_inj_left.1 (enriched.trans (List.map_id node.services).symm) service listed

/-- The third pass leaves associations complete. -/
theorem link_reconcile (node : Node) : node.reconcile.link = node.reconcile := by
  have complete : Association.Complete node.reconcile.containers node.files node.reconcile.services := by
    intro enriched member id evident
    rcases List.mem_map.1 member with ⟨resolved, resolvedMember, rfl⟩
    rcases ProxyRole.mem_resolve resolvedMember with ⟨linked, linkedMember, flag, rfl⟩
    rw [show node.reconcile.containers = node.containers.map (resolveContainer _) from rfl,
      Association.evidence_map (keepsIdentity_resolveContainer _)] at evident
    exact Association.complete_link node.containers node.files node.services linked linkedMember id evident
  have unchanged := Association.link_eq_self complete
  exact congrArg (fun services => { node.reconcile with services }) unchanged

/-- The third pass leaves the flags right and the election as it was. -/
theorem resolveProxies_reconcile (node : Node) : node.reconcile.resolveProxies = node.reconcile := by
  have unchanged : ProxyRole.resolve node.reconcile.containers node.files node.reconcile.services =
      node.reconcile.services := by
    refine ProxyRole.resolve_eq_self ?_ ?_
    · intro enriched member
      rcases List.mem_map.1 member with ⟨resolved, resolvedMember, rfl⟩
      rcases ProxyRole.mem_resolve resolvedMember with ⟨linked, linkedMember, flag, rfl⟩
      rw [show node.reconcile.containers = node.containers.map (resolveContainer _) from rfl,
        ProxyRole.assess_map (keepsIdentity_resolveContainer _)]
      rfl
    · exact ProxyRole.elect_map_eq_self (fun _ => rfl) (fun _ => rfl) (ProxyRole.elect_elect _)
  exact congrArg (fun services => { node.reconcile with services }) unchanged

theorem settled_reconcile (node : Node) : node.reconcile.Settled :=
  ⟨link_reconcile node, resolveProxies_reconcile node, enrich_enrich node.link.resolveProxies⟩

end Node
end Fleet
