import Fleet.Domain
import Fleet.Proofs.Node.Passes
import Fleet.Report.Basic

namespace Fleet

/-!
# A node without the domains of the fleet

The domains of services and containers are the only facts of a node that come from the whole fleet.  They
are written into the node, next to what the node's own reports imply.  Nothing that is derived for the node
itself reads them: a pass gives the same with the domains taken away before or after it, and leaves the
domains that are there.  So the fleet may write them at any time without unsettling the node, and what a
node becomes by its reports is the same whatever domains it had.
-/

/-- A service without its domains. -/
def Service.withoutDomains (service : Service) : Service :=
  { service with verifiedDomains := none }

/-- A container without its domains. -/
def Container.withoutDomains (container : Container) : Container :=
  { container with verifiedDomains := none }

namespace Node

/-- A node without the domains of its services and containers. -/
def withoutDomains (node : Node) : Node :=
  { node with
    services := node.services.map Service.withoutDomains
    containers := node.containers.map Container.withoutDomains }

/-- The domains of a node's services and of its containers, in their order. -/
def domains (node : Node) : List (Option (List String)) × List (Option (List String)) :=
  (node.services.map Service.verifiedDomains, node.containers.map Container.verifiedDomains)

theorem keepsIdentity_withoutDomains : Container.KeepsIdentity Container.withoutDomains :=
  fun _ => rfl

private theorem eq_of_map_eq {α β γ : Type} {first : α → β} {second : α → γ}
    (determined : ∀ left right, first left = first right → second left = second right → left = right)
    {left right : List α} (sameFirst : left.map first = right.map first)
    (sameSecond : left.map second = right.map second) : left = right := by
  induction left generalizing right with
  | nil => exact (List.map_eq_nil_iff.1 sameFirst.symm).symm
  | cons head rest inductionHypothesis =>
      cases right with
      | nil => cases sameFirst
      | cons other others =>
          have headFirst := (List.cons.inj sameFirst).1
          have headSecond := (List.cons.inj sameSecond).1
          rw [determined head other headFirst headSecond,
            inductionHypothesis (List.cons.inj sameFirst).2 (List.cons.inj sameSecond).2]

/-- A node is what it is without domains, and its domains. -/
theorem eq_of_withoutDomains {left right : Node} (same : left.withoutDomains = right.withoutDomains)
    (sameDomains : left.domains = right.domains) : left = right := by
  have services : left.services = right.services := by
    refine eq_of_map_eq ?_ (congrArg services same) (congrArg Prod.fst sameDomains)
    intro first second alike domains
    cases first
    cases second
    simp_all [Service.withoutDomains]
  have containers : left.containers = right.containers := by
    refine eq_of_map_eq ?_ (congrArg containers same) (congrArg Prod.snd sameDomains)
    intro first second alike domains
    cases first
    cases second
    simp_all [Container.withoutDomains]
  cases left
  cases right
  simp_all [withoutDomains]

/-! ## The passes -/

theorem withoutDomains_link (node : Node) : node.link.withoutDomains = node.withoutDomains.link := by
  have services : (Association.link node.containers node.files node.services).map Service.withoutDomains =
      Association.link (node.containers.map Container.withoutDomains) node.files
        (node.services.map Service.withoutDomains) := by
    rw [Association.link_map keepsIdentity_withoutDomains]
    unfold Association.link
    rw [List.map_map, List.map_map]
    rfl
  simp only [withoutDomains, link, services]

theorem withoutDomains_resolveProxies (node : Node) :
    node.resolveProxies.withoutDomains = node.withoutDomains.resolveProxies := by
  have services : (ProxyRole.resolve node.containers node.files node.services).map Service.withoutDomains =
      ProxyRole.resolve (node.containers.map Container.withoutDomains) node.files
        (node.services.map Service.withoutDomains) := by
    unfold ProxyRole.resolve
    rw [ProxyRole.assess_map keepsIdentity_withoutDomains,
      ← ProxyRole.elect_map Service.withoutDomains (fun _ => rfl) fun _ _ => rfl, List.map_map, List.map_map]
    rfl
  simp only [withoutDomains, resolveProxies, services]

theorem ofProcess_withoutDomains (containers : List Container) (pid : UInt32) :
    ServicePorts.ofProcess (containers.map Container.withoutDomains) pid =
      ServicePorts.ofProcess containers pid := by
  unfold ServicePorts.ofProcess
  rw [List.filter_map, List.flatMap_map]
  rfl

theorem effective_withoutDomains (containers : List Container) (files : Unit.Files) (routes : List Route)
    (linked : List Container) (service : Service) :
    ServicePorts.effective (containers.map Container.withoutDomains) files routes
        (linked.map Container.withoutDomains) service.withoutDomains =
      ServicePorts.effective containers files routes linked service := by
  have sameLive : ServicePorts.live (containers.map Container.withoutDomains)
      (linked.map Container.withoutDomains) = ServicePorts.live containers linked := by
    unfold ServicePorts.live
    rw [funext (ofProcess_withoutDomains containers), List.filterMap_map]
    rfl
  have sameNeed : ServicePorts.needsLive (linked.map Container.withoutDomains) service.withoutDomains =
      ServicePorts.needsLive linked service := by
    unfold ServicePorts.needsLive
    rw [List.any_map, List.any_map]
    rfl
  have sameObserved : ServicePorts.observed (containers.map Container.withoutDomains) routes
      (linked.map Container.withoutDomains) service.withoutDomains =
      ServicePorts.observed containers routes linked service := by
    unfold ServicePorts.observed
    rw [sameLive, sameNeed, List.flatMap_map]
    rfl
  unfold ServicePorts.effective
  rw [sameObserved]
  rfl

theorem enrichService_withoutDomains (containers : List Container) (files : Unit.Files)
    (routes : List Route) (nodeIp : Option String) (service : Service) :
    enrichService (containers.map Container.withoutDomains) files routes nodeIp service.withoutDomains =
      (enrichService containers files routes nodeIp service).withoutDomains := by
  have sameLinked : Container.ofIds (containers.map Container.withoutDomains)
      service.withoutDomains.associatedContainerIds =
      (Container.ofIds containers service.associatedContainerIds).map Container.withoutDomains :=
    Container.ofIds_map keepsIdentity_withoutDomains containers service.associatedContainerIds
  unfold enrichService
  rw [sameLinked]
  simp only [effective_withoutDomains, List.any_map]
  rfl

theorem map_resolveContainer_withoutDomains (containers : List Container) (nodeIp : Option String) :
    (containers.map Container.withoutDomains).map (resolveContainer nodeIp) =
      (containers.map (resolveContainer nodeIp)).map Container.withoutDomains := by
  rw [List.map_map, List.map_map]
  rfl

theorem withoutDomains_enrich (node : Node) : node.enrich.withoutDomains = node.withoutDomains.enrich := by
  have services : ∀ containers nodeIp,
      (node.services.map Service.withoutDomains).map
          (enrichService (containers.map Container.withoutDomains) node.files node.proxyRoutes nodeIp) =
        (node.services.map (enrichService containers node.files node.proxyRoutes nodeIp)).map
          Service.withoutDomains := by
    intro containers nodeIp
    rw [List.map_map, List.map_map]
    exact List.map_congr_left fun service _ => enrichService_withoutDomains _ _ _ _ service
  simp only [enrich, withoutDomains, map_resolveContainer_withoutDomains, services]

theorem withoutDomains_reconcile (node : Node) :
    node.reconcile.withoutDomains = node.withoutDomains.reconcile := by
  unfold reconcile
  rw [withoutDomains_enrich, withoutDomains_resolveProxies, withoutDomains_link]

theorem domains_link (node : Node) : node.link.domains = node.domains := by
  unfold domains link Association.link
  rw [List.map_map]
  rfl

theorem domains_resolveProxies (node : Node) : node.resolveProxies.domains = node.domains := by
  unfold domains resolveProxies ProxyRole.resolve
  rw [ProxyRole.map_elect fun _ _ => rfl, List.map_map]
  rfl

theorem domains_enrich (node : Node) : node.enrich.domains = node.domains := by
  unfold domains enrich
  rw [List.map_map, List.map_map]
  rfl

/-! ## Writing the domains -/

@[simp] theorem withoutDomains_mapNode (index : Domain.Index) (node : Node) :
    (Domain.mapNode index node).withoutDomains = node.withoutDomains := by
  unfold withoutDomains Domain.mapNode
  rw [List.map_map, List.map_map]
  rfl

/-- The domains that a node has are overwritten without being read. -/
@[simp] theorem mapNode_withoutDomains (index : Domain.Index) (node : Node) :
    Domain.mapNode index node.withoutDomains = Domain.mapNode index node := by
  unfold Domain.mapNode withoutDomains
  simp only [List.map_map]
  rfl

theorem mapNode_mapNode (index : Domain.Index) (node : Node) :
    Domain.mapNode index (Domain.mapNode index node) = Domain.mapNode index node := by
  rw [← mapNode_withoutDomains index (Domain.mapNode index node), withoutDomains_mapNode,
    mapNode_withoutDomains]

/-- A pass that neither reads nor writes domains, and has nothing to do for a node, has nothing to do after
the domains are written. -/
theorem pass_mapNode_eq_self {pass : Node → Node}
    (ignores : ∀ node, (pass node).withoutDomains = pass node.withoutDomains)
    (keeps : ∀ node, (pass node).domains = node.domains) {node : Node} (unchanged : pass node = node)
    (index : Domain.Index) : pass (Domain.mapNode index node) = Domain.mapNode index node := by
  refine eq_of_withoutDomains ?_ (keeps _)
  rw [ignores, withoutDomains_mapNode, ← ignores, unchanged]

theorem Settled.mapNode {node : Node} (settled : node.Settled) (index : Domain.Index) :
    (Domain.mapNode index node).Settled where
  link := pass_mapNode_eq_self withoutDomains_link domains_link settled.link index
  resolveProxies :=
    pass_mapNode_eq_self withoutDomains_resolveProxies domains_resolveProxies settled.resolveProxies index
  enrich := pass_mapNode_eq_self withoutDomains_enrich domains_enrich settled.enrich index

/-- Whether a node is connected has no part in what is derived for it. -/
theorem Settled.setConnected {node : Node} (settled : node.Settled) (connected : Bool) :
    { node with connected := connected }.Settled where
  link := congrArg (fun same : Node => { same with connected := connected }) settled.link
  resolveProxies := congrArg (fun same : Node => { same with connected := connected }) settled.resolveProxies
  enrich := congrArg (fun same : Node => { same with connected := connected }) settled.enrich

/-! ## Reports -/

theorem carryOver_withoutDomains (previous incoming : List Service) :
    Association.carryOver (previous.map Service.withoutDomains) incoming =
      Association.carryOver previous incoming := by
  unfold Association.carryOver
  refine List.map_congr_left fun service _ => ?_
  have sameName : (fun old : Service => old.name == service.name) ∘ Service.withoutDomains =
      fun old => old.name == service.name := rfl
  rw [List.find?_map, sameName]
  cases previous.find? fun old => old.name == service.name <;> rfl

theorem merge_withoutDomains (report : Report) (node : Node) :
    (node.withoutDomains.merge report).withoutDomains = (node.merge report).withoutDomains := by
  unfold merge
  cases report.services <;> cases report.containers <;>
    simp [withoutDomains, carryOver_withoutDomains, Service.withoutDomains, Container.withoutDomains,
      Function.comp_def]

/-- What a report makes of a node does not depend on the domains that the node had. -/
theorem receive_withoutDomains (now : UInt64) (report : Report) (node : Node) :
    (node.withoutDomains.receive now report).withoutDomains = (node.receive now report).withoutDomains := by
  unfold receive
  rw [withoutDomains_reconcile, withoutDomains_reconcile]
  have merged := merge_withoutDomains report node
  exact congrArg (fun same : Node => reconcile { same with connected := true, lastSync := now }) merged

theorem settled_receive (now : UInt64) (report : Report) (node : Node) :
    (node.receive now report).Settled :=
  settled_reconcile _

end Node
end Fleet
