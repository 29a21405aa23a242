import Fleet.Proofs.Node.Domains

namespace Fleet

/-!
# A node without what is derived for it

Much of a node is derived from the rest of it and is stored in the same records, next to what it is derived
from.  Here all of it is taken away: the addresses of the node, the domains, and of a service the ports, the
flags, the configuration and the use of host networking.  What an agent claims about a proxy stays, for it
is reported; so do the containers of a service, which are both reported and found.

Two facts make the rest an input in its own right.  Deriving everything from it gives what deriving
everything from the whole node gives, so nothing that was derived before is read before it is overwritten.
And deriving changes it in two ways only: services gain the containers for which there is evidence, and
wildcard addresses of container ports are resolved.  Hence a settled node is determined by its inputs, up to
the domains that it gets from the fleet.
-/

/-- A service without what is derived for it. -/
def Service.withoutDerived (service : Service) : Service :=
  { service with
    ports := none
    isReverseProxy := false
    isServiceBay := false
    isPrimaryProxy := false
    proxyConfiguration := none
    effectiveHostNetwork := false
    verifiedDomains := none }

/-- A service with its flags, but without what the third pass and the fleet derive for it. -/
def Service.flagged (service : Service) : Service :=
  { service with
    ports := none
    proxyConfiguration := none
    effectiveHostNetwork := false
    verifiedDomains := none }

/-- A node without what is derived for it. -/
def Node.withoutDerived (node : Node) : Node :=
  { node with
    services := node.services.map Service.withoutDerived
    containers := node.containers.map Container.withoutDomains
    nodeIps := [] }

/-! ## Deriving from the inputs -/

theorem Association.link_withoutDerived (containers : List Container) (files : Unit.Files)
    (services : List Service) :
    link containers files (services.map Service.withoutDerived) =
      (link containers files services).map Service.withoutDerived := by
  unfold link
  rw [List.map_map, List.map_map]
  rfl

namespace ProxyRole

/-- Who was the primary proxy before has no part in the election. -/
theorem elect_forgotten (services : List Service) :
    elect (services.map fun service => { service with isPrimaryProxy := false }) = elect services := by
  have samePrimary : primary? (services.map fun service => { service with isPrimaryProxy := false }) =
      primary? services :=
    @primary?_map (fun service => { service with isPrimaryProxy := false }) (fun _ => rfl) services
  apply List.ext_getElem?
  intro place
  simp only [elect, samePrimary, List.getElem?_map, List.getElem?_mapIdx, Option.map_map]
  rfl

/-- The flags of a service are found without looking at anything derived, the earlier flags included. -/
theorem resolve_withoutDerived (containers : List Container) (files : Unit.Files)
    (services : List Service) :
    resolve containers files (services.map Service.withoutDerived) =
      (resolve containers files services).map Service.flagged := by
  have assessed : (services.map Service.withoutDerived).map (assess containers files) =
      ((services.map (assess containers files)).map Service.flagged).map
        fun service => { service with isPrimaryProxy := false } := by
    rw [List.map_map, List.map_map, List.map_map]
    rfl
  unfold resolve
  rw [assessed, elect_forgotten, elect_map Service.flagged (fun _ => rfl) fun _ _ => rfl]

theorem withoutDerived_resolve (containers : List Container) (files : Unit.Files) (services : List Service) :
    (resolve containers files services).map Service.withoutDerived = services.map Service.withoutDerived := by
  unfold resolve
  rw [map_elect fun _ _ => rfl, List.map_map]
  rfl

end ProxyRole

namespace Node

/-- The third pass reads the flags of a service and nothing else that was derived. -/
theorem enrichServices_flagged (containers : List Container) (files : Unit.Files) (routes : List Route)
    (nodeIp : Option String) (services : List Service) :
    (services.map Service.flagged).map (enrichService containers files routes nodeIp) =
      (services.map (enrichService containers files routes nodeIp)).map Service.withoutDomains := by
  rw [List.map_map, List.map_map]
  rfl

theorem reconcile_servicesWithoutDerived (node : Node) :
    { node with services := node.services.map Service.withoutDerived, nodeIps := [] }.reconcile =
      { node.reconcile with services := node.reconcile.services.map Service.withoutDomains } := by
  unfold reconcile enrich resolveProxies link
  simp only [Association.link_withoutDerived, ProxyRole.resolve_withoutDerived, enrichServices_flagged]

/-- Deriving everything from the inputs of a node gives what deriving everything from the node gives. -/
theorem reconcile_withoutDerived (node : Node) :
    node.withoutDerived.reconcile = node.reconcile.withoutDomains := by
  have inputs : node.withoutDerived = { node.withoutDomains with
      services := node.withoutDomains.services.map Service.withoutDerived, nodeIps := [] } := by
    unfold withoutDerived withoutDomains
    rw [List.map_map]
    rfl
  rw [inputs, reconcile_servicesWithoutDerived, ← withoutDomains_reconcile]
  unfold withoutDomains
  rw [List.map_map]
  rfl

/-! ## The inputs after deriving -/

/-- Deriving changes the inputs of a node in two ways: services gain containers, and addresses of container
ports are resolved. -/
theorem withoutDerived_reconcile (node : Node) :
    node.reconcile.withoutDerived =
      { node.link.withoutDerived with
        containers := (node.containers.map (resolveContainer (addressesOf node.resources).head?)).map
          Container.withoutDomains } := by
  have services : node.reconcile.services.map Service.withoutDerived =
      node.link.services.map Service.withoutDerived :=
    calc
      node.reconcile.services.map Service.withoutDerived
        = (ProxyRole.resolve node.containers node.files node.link.services).map Service.withoutDerived :=
          List.map_map
      _ = node.link.services.map Service.withoutDerived := ProxyRole.withoutDerived_resolve _ _ _
  unfold withoutDerived
  rw [services]
  rfl

theorem Settled.reconcile_eq_self {node : Node} (settled : node.Settled) : node.reconcile = node := by
  rw [reconcile, settled.link, settled.resolveProxies, settled.enrich]

/-- Settled nodes with the same inputs differ in nothing but the domains that the fleet gave them. -/
theorem Settled.eq_of_withoutDerived {left right : Node} (leftSettled : left.Settled)
    (rightSettled : right.Settled) (same : left.withoutDerived = right.withoutDerived) :
    left.withoutDomains = right.withoutDomains :=
  calc
    left.withoutDomains = left.reconcile.withoutDomains := by rw [leftSettled.reconcile_eq_self]
    _ = left.withoutDerived.reconcile := (reconcile_withoutDerived left).symm
    _ = right.withoutDerived.reconcile := congrArg reconcile same
    _ = right.reconcile.withoutDomains := reconcile_withoutDerived right
    _ = right.withoutDomains := by rw [rightSettled.reconcile_eq_self]

end Node
end Fleet
