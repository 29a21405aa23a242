import Fleet.Bundle.Basic
import Fleet.Bundle.Forest
import Fleet.Distinct
import Fleet.Node
import Fleet.Unit.Files

namespace Fleet

/-!
# Members of bundles

What decides to which bundle a service belongs: its pod, and the units that it depends on by its unit file
or by the word of the agent.  Two services are linked when they share a pod or when one depends on the
other, and a bundle is a group of services that are connected by links.
-/

/-- A service with what its unit file adds to it. -/
structure Member where
  service : Service
  unitFile : Option WatchedFile
  directives : Option Unit.Directives
  pod : Option String
  /-- The units that the service depends on, with the reasons, each pair once. -/
  dependencies : List (DependencyReason × String)

namespace DependencyReason

def inDirectives (reason : DependencyReason) (directives : Unit.Directives) : List String :=
  match reason with
  | requires => directives.requires
  | after => directives.after
  | wants => directives.wants
  | bindsTo => directives.bindsTo

def inService (reason : DependencyReason) (service : Service) : List String :=
  match reason with
  | requires => service.requires
  | after => service.after
  | wants => service.wants
  | bindsTo => service.bindsTo

end DependencyReason

namespace Member

/-- The pod of a service: the one that its unit file gives, or else the one that the agent gives. -/
def podOf (directives : Option Unit.Directives) (service : Service) : Option String :=
  let pod :=
    (directives.bind Unit.Directives.pod).or (service.podReference.map Unit.podName)
  pod.filter fun pod => !pod.isEmpty

/-- The units that a service depends on, those of its unit file first for every reason. -/
def dependenciesOf (directives : Option Unit.Directives) (service : Service) :
    List (DependencyReason × String) :=
  distinct (DependencyReason.all.flatMap fun reason =>
    let listed := (directives.map reason.inDirectives).getD [] ++ reason.inService service
    listed.map fun target => (reason, target))

def ofService (files : Unit.Files) (service : Service) : Member :=
  let unitFile := Unit.fileFor files service.name
  let directives := unitFile.map fun file => Unit.Directives.parse file.content
  { service
    unitFile
    directives
    pod := podOf directives service
    dependencies := dependenciesOf directives service }

def ofNode (node : Node) : List Member :=
  node.services.map (ofService node.files)

/-- The names of the services that a member depends on. -/
def serviceTargets (member : Member) : List String :=
  member.dependencies.filterMap fun dependency => Unit.service? dependency.2

/-! ## Links -/

/-- The place of the service of a name; of several the one listed last. -/
def placeOf? (members : List Member) (name : String) : Option (Fin members.length) :=
  (List.finRange members.length).reverse.find? fun i => members[i].service.name == name

def firstOfPod? (members : List Member) (pod : String) : Option (Fin members.length) :=
  (List.finRange members.length).find? fun i => members[i].pod == some pod

def linksOf (members : List Member) (i : Fin members.length) :
    List (Fin members.length × Fin members.length) :=
  let pod := members[i].pod.bind (firstOfPod? members)
  let targets := members[i].serviceTargets.filterMap (placeOf? members)
  (pod.toList ++ targets).map fun j => (i, j)

def links (members : List Member) : List (Fin members.length × Fin members.length) :=
  (List.finRange members.length).flatMap (linksOf members)

def forest (members : List Member) : Forest members.length :=
  (Forest.discrete members.length).unionAll (links members)

/-- The members of each bundle, bundles in the order of their first members. -/
def groups (members : List Member) : List (List Member) :=
  let forest := forest members
  let places := List.finRange members.length
  let rooted := places.map fun i => (forest.root i, members[i])
  (distinct (places.map forest.root)).map fun root =>
    (rooted.filter fun entry => entry.1 == root).map Prod.snd

end Member
end Fleet
