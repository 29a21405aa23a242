import Fleet.Bundle.Member
import Fleet.Bundle.Naming

namespace Fleet
namespace Bundle

/-!
# Bundles of a node

A bundle shows its services with everything that belongs to them: containers, ports, files and
dependencies, and what a person should know about it.
-/

/-- The name that a bundle is given: that of the first pod among its members, or else the words that the
names of several members have in common, or else the name of its first member. -/
def nameOf (members : List Member) : String :=
  let names := members.map fun member => member.service.name
  let shared :=
    if 1 < names.length then (Naming.commonWords (names.map String.toList)).toOption.join.map String.ofList
    else none
  match (members.findSome? Member.pod).or shared with
  | some name => name
  | none => names.headD ""

def portsOf (members : List Member) : List PortMapping :=
  PortMapping.merge [] (members.flatMap fun member =>
    member.service.ports.getD member.service.declaredPorts)

def listedContainer (container : Container) : BundleContainer :=
  ⟨container.id, container.displayName, container.image, container.state⟩

/-- The containers of the members that the node has, each once. -/
def containersOf (node : Node) (members : List Member) : List BundleContainer :=
  (distinct (members.flatMap fun member => member.service.associatedContainerIds)).filterMap fun id =>
    (node.container? id).map listedContainer

def pathsOf (files : Unit.Files) (member : Member) : List String :=
  match member.unitFile with
  | none => []
  | some file =>
      let pods := do
        let reference ← (← member.directives).kubeYaml
        Unit.resolveYaml files file.path reference
      file.path :: (pods.map WatchedFile.path).toList

/-- The files of the members, each once. -/
def assetsOf (files : Unit.Files) (members : List Member) : List BundleAsset :=
  (distinct (members.flatMap (pathsOf files))).map fun path => ⟨path, AssetKind.ofPath path⟩

def graphOf (members : List Member) : List GraphEdge :=
  members.flatMap fun member =>
    member.dependencies.map fun dependency => ⟨member.service.name, dependency.2, dependency.1⟩

/-- Whether a dependency cannot be met: it is a hard one on a service that the node does not have. -/
def isMissing (node : Node) (edge : GraphEdge) : Bool :=
  edge.reason.isHard && (Unit.service? edge.target).any fun name => (node.service? name).isNone

/-- The units that are missing, each once. -/
def missingOf (node : Node) (graph : List GraphEdge) : List String :=
  distinct ((graph.filter (isMissing node)).map GraphEdge.target)

/-- A line of a summary: what it lists, and the items; no line for no items. -/
def hint (label : String) (items : List String) : List String :=
  if items.isEmpty then [] else [label ++ ": " ++ ", ".intercalate items]

/-- The units that others depend on for a reason, each once. -/
def targetsFor (reason : DependencyReason) (graph : List GraphEdge) : List String :=
  distinct ((graph.filter fun edge => edge.reason == reason).map GraphEdge.target)

/-- What a person should know about the dependencies of a bundle. -/
def hintsOf (graph : List GraphEdge) (missing : List String) : List String :=
  (DependencyReason.all.flatMap fun reason => hint reason.label (targetsFor reason graph)) ++
    hint "Missing dependencies" missing

def severityOf (members : List Member) (missing : List String) : Severity :=
  if members.any fun member => member.service.activeState == "failed" then .critical
  else if !missing.isEmpty || members.any fun member => !member.service.isActive then .warning
  else .ok

def listedService (member : Member) : BundleService :=
  ⟨member.service.name, member.service.activeState, member.unitFile.map WatchedFile.path⟩

/-- The bundle of a group of members, whose id is known. -/
def ofGroup (nodeName : String) (node : Node) (id : String) (members : List Member) : Bundle :=
  let name := nameOf members
  let graph := graphOf members
  let missing := missingOf node graph
  { id
    displayName := Naming.display name
    derivedName := name
    nodeName
    services := members.map listedService
    containers := containersOf node members
    ports := portsOf members
    assets := assetsOf node.files members
    graph
    hints := hintsOf graph missing
    severity := severityOf members missing }

/-- The bundles of groups; ids that are in use already are not given again. -/
def ofGroups (nodeName : String) (node : Node) : (used : List String) → List (List Member) → List Bundle
  | _, [] => []
  | used, members :: rest =>
      let id := Naming.freeId used (Naming.slug (nameOf members))
      ofGroup nodeName node id members :: ofGroups nodeName node (id :: used) rest

def ofNode (nodeName : String) (node : Node) : List Bundle :=
  ofGroups nodeName node [] (Member.groups (Member.ofNode node))

end Bundle
end Fleet
