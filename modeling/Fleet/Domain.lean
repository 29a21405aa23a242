import Fleet.Keyed
import Fleet.Node
import Fleet.Number.Numeral
import Fleet.Snapshot

namespace Fleet

/-!
# Routes and domains of the fleet

The routes of all connected nodes make up one table, and a service or a container is verified to serve the
host names whose routes lead to it.  A route leads to whatever has a host port at the address and port that
the target names; nothing but this coincidence is looked at.
-/

namespace RouteTable

/-- Add a route unless its host name has one already. -/
def add (routes : List Route) (route : Route) : List Route :=
  if routes.any fun known => known.host == route.host then routes else routes ++ [route]

/-- The routes of the connected nodes, nodes in the order of their ids; the first route of a host name
counts. -/
def aggregate (nodes : Keyed Node) : List Route :=
  ((nodes.values.filter Node.connected).flatMap Node.proxyRoutes).foldl add []

end RouteTable

namespace Domain

/-- A target without scheme, blanks around it and slashes at its end, in lower case. -/
def normalizeTarget (target : String) : String :=
  let text := Text.trim target.toList
  let rest :=
    match Text.cutAround "://".toList text with
    | some parts => parts.2
    | none => text
  String.ofList (Text.lowered (Text.stripEnd '/' rest))

def hasPort (target : String) : Bool :=
  match Text.cutLast ':' target.toList with
  | some parts => (Number.word16? parts.2).isSome
  | none => false

def atPort (address : String) (port : UInt16) : String :=
  address ++ ":" ++ toString port.toNat

/-- The targets under which a route is found: the one that it names and, if that has no port, the one
with the port beside it, which comes first. -/
def targetsOf (route : Route) : List String :=
  let target := normalizeTarget route.targetService
  if target.isEmpty then []
  else
    match hasPort target, route.targetPort with
    | false, some port => [atPort target port, target]
    | _, _ => [target]

abbrev Index := Keyed (List String)

def enter (index : Index) (entry : String × String) : Index :=
  index.alter entry.1 [] fun hosts => addNew hosts entry.2

def index (routes : List Route) : Index :=
  (routes.flatMap fun route => (targetsOf route).map fun target => (target, route.host)).foldl
    enter .empty

/-- The addresses at which a proxy may reach a host port of a node. -/
def candidates (nodeIps : List String) (port : UInt16) : List String :=
  (["127.0.0.1", "localhost", "0.0.0.0"] ++ nodeIps).map fun address => atPort address port

/-- Texts in their order, each once. -/
def sorted (texts : List String) : List String :=
  (Keyed.ofList (texts.map fun text => (text, ()))).keys

/-- The host names whose routes lead to one of the ports, or nothing if there are none. -/
def verified (index : Index) (nodeIps : List String) (ports : List PortMapping) :
    Option (List String) :=
  let hosts :=
    ((ports.filterMap PortMapping.hostPort).flatMap (candidates nodeIps)).flatMap fun address =>
      (index.get? address).getD []
  if hosts.isEmpty then none else some (sorted hosts)

/-- A node with the host names that its services and containers serve. -/
def mapNode (index : Index) (node : Node) : Node :=
  { node with
    services := node.services.map fun service =>
      { service with verifiedDomains := verified index node.nodeIps (service.ports.getD []) }
    containers := node.containers.map fun container =>
      { container with verifiedDomains := verified index node.nodeIps container.ports } }

/-- All nodes with the host names that their services and containers serve. -/
def mapNodes (routes : List Route) (nodes : Keyed Node) : Keyed Node :=
  nodes.mapValues (mapNode (index routes))

end Domain
end Fleet
