import Fleet.Association
import Fleet.Node
import Fleet.Proxy.Role
import Fleet.Proxy.Destination
import Fleet.Service.Ports

namespace Fleet
namespace Node

/-!
# What a node's reports imply

Three passes over a node.  The first associates containers with services, the second finds the proxies, and
the third derives addresses, ports and the configuration of the primary proxy.  Each reads what is reported
and what the passes before it derived, so derived values of an earlier time have no influence.
-/

def link (node : Node) : Node :=
  { node with services := Association.link node.containers node.files node.services }

def resolveProxies (node : Node) : Node :=
  { node with services := ProxyRole.resolve node.containers node.files node.services }

/-- A service with everything that the third pass derives for it. -/
def enrichService (containers : List Container) (files : Unit.Files) (routes : List Route)
    (nodeIp : Option String) (service : Service) : Service :=
  let linked := Container.ofIds containers service.associatedContainerIds
  let ports :=
    PortMapping.resolveHostIps nodeIp
      (ServicePorts.effective containers files routes linked service)
  { service with
    effectiveHostNetwork := linked.any Container.usesHostNetwork
    ports := if ports.isEmpty then none else some ports
    proxyConfiguration := if service.isPrimaryProxy then some (Destination.configuration routes) else none }

def resolveContainer (nodeIp : Option String) (container : Container) : Container :=
  { container with ports := PortMapping.resolveHostIps nodeIp container.ports }

def addressesOf (resources : Option SystemResources) : List String :=
  match resources with
  | some resources => resources.externalAddresses
  | none => []

/-- Derive addresses, ports and the configuration of the primary proxy. -/
def enrich (node : Node) : Node :=
  let nodeIps := addressesOf node.resources
  let containers := node.containers.map (resolveContainer nodeIps.head?)
  { node with
    nodeIps
    containers
    services :=
      node.services.map (enrichService containers node.files node.proxyRoutes nodeIps.head?) }

def reconcile (node : Node) : Node :=
  node.link.resolveProxies.enrich

end Node
end Fleet
