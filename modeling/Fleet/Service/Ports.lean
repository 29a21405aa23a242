import Fleet.Container
import Fleet.Port.Basic
import Fleet.Proxy.Configuration
import Fleet.Service
import Fleet.Unit.Files
import Fleet.Unit.Workload

namespace Fleet
namespace ServicePorts

/-!
# The ports of a service

A service has the ports that its agent gives for it and those of its containers.  On the network of its
host a container publishes nothing; then the ports of all running host-networked containers of the same
process count.  The primary proxy is always reachable at the web ports.  Only when nothing of this gives
any port, those are taken that the unit file asks for.
-/

/-- The ports of the running containers of a process that share the network of the host. -/
def ofProcess (containers : List Container) (pid : UInt32) : List PortMapping :=
  PortMapping.merge []
    ((containers.filter fun container =>
      container.pid == some pid && container.isRunning && container.usesHostNetwork).flatMap
        Container.ports)

def live (containers linked : List Container) : List PortMapping :=
  (linked.filterMap Container.pid).flatMap (ofProcess containers)

/-- Add a host port unless a mapping has it. -/
def ensure (port : UInt16) (ports : List PortMapping) : List PortMapping :=
  if ports.any fun mapping => mapping.hostPort == some port then ports else ports ++ [.onHost port]

/-- The web ports, of which the encrypted one takes a route that needs it. -/
def ensureWeb (routes : List Route) (ports : List PortMapping) : List PortMapping :=
  let ports := ensure 80 ports
  if routes.any Route.ssl then ensure 443 ports else ports

/-- The ports that a unit file publishes; specifications that cannot be read are passed over. -/
def published (directives : Unit.Directives) : List PortMapping :=
  PortMapping.merge [] (directives.publishPorts.filterMap fun spec =>
    (PublishSpec.parse spec directives.usesHostNetwork).toOption)

def ofPods (files : Unit.Files) (unitPath : String) (directives : Unit.Directives) : List PortMapping :=
  let ports := do
    let file ← Unit.resolveYaml files unitPath (← directives.kubeYaml)
    Workload.portsIn? file.content
  ports.getD []

/-- The ports that the unit file of a service asks for. -/
def fromUnitFile (files : Unit.Files) (service : String) : List PortMapping :=
  match Unit.fileFor files service with
  | none => []
  | some file =>
      let directives := Unit.Directives.parse file.content
      match directives.sourceType with
      | .kube => ofPods files file.path directives
      | .container => published directives
      | .pod => published directives
      | .service => []
      | .unknown => []

/-- Whether the live ports of the containers' processes count. -/
def needsLive (linked : List Container) (service : Service) : Bool :=
  service.isActive &&
    (linked.any Container.usesHostNetwork || linked.any fun container => container.ports.isEmpty)

def observed (containers : List Container) (routes : List Route) (linked : List Container)
    (service : Service) : List PortMapping :=
  let lived := if needsLive linked service then live containers linked else []
  let ports := PortMapping.merge service.declaredPorts (lived ++ linked.flatMap Container.ports)
  if service.isPrimaryProxy then ensureWeb routes ports else ports

def effective (containers : List Container) (files : Unit.Files) (routes : List Route)
    (linked : List Container) (service : Service) : List PortMapping :=
  let ports := observed containers routes linked service
  if ports.isEmpty then fromUnitFile files service.name else ports

end ServicePorts
end Fleet
