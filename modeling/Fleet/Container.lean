import Fleet.Port.Basic
import Fleet.Text.Cut

namespace Fleet

/-!
# Containers

A container as the agent of its host lists it.  Everything but `verifiedDomains` is reported, and that
field is derived from the routes of the whole fleet.
-/

/-- A container of a node. -/
structure Container where
  id : String
  /-- The first name is the canonical one; container engines put a slash in front of it. -/
  names : List String
  image : String
  state : String
  ports : List PortMapping
  labels : Keyed String
  networks : List String
  isHostNetwork : Bool
  podId : Option String
  podName : Option String
  pid : Option UInt32
  verifiedDomains : Option (List String)
  deriving DecidableEq

namespace Container

/-- The label that names the system service which started a container. -/
def unitLabel : String := "PODMAN_SYSTEMD_UNIT"

def record : Record Container Container :=
  mk <$> .required ⟨"id", []⟩ id .text
    <*> .required ⟨"names", []⟩ names (.list .text)
    <*> .defaulted ⟨"image", []⟩ image .text ""
    <*> .defaulted ⟨"state", []⟩ state .text ""
    <*> .defaulted ⟨"ports", []⟩ ports (.list PortMapping.codec) []
    <*> .defaulted ⟨"labels", []⟩ labels (.keyed .text) .empty
    <*> .defaulted ⟨"networks", []⟩ networks (.list .text) []
    <*> .defaulted ⟨"isHostNetwork", []⟩ isHostNetwork .flag false
    <*> .optional ⟨"podId", []⟩ podId .text
    <*> .optional ⟨"podName", []⟩ podName .text
    <*> .optional ⟨"pid", []⟩ pid .word32
    <*> .optional ⟨"verifiedDomains", []⟩ verifiedDomains (.list .text)

def codec : Codec Container :=
  record.codec

def bareName (name : String) : String :=
  String.ofList (Text.stripStart '/' name.toList)

/-- The canonical name, or the id of a container without a name. -/
def displayName (container : Container) : String :=
  match container.names with
  | [] => container.id
  | name :: _ => bareName name

/-- Whether the engine reports the container as running. -/
def isRunning (container : Container) : Bool :=
  Text.sameButCase container.state "running"

/-- Host networking, whether flagged by the agent or visible among the networks. -/
def usesHostNetwork (container : Container) : Bool :=
  container.isHostNetwork || container.networks.contains "host"

def label? (container : Container) (key : String) : Option String :=
  container.labels.get? key

/-- Whether one of the names, slashes aside, is the given one. -/
def hasName (container : Container) (name : String) : Bool :=
  container.names.any fun given => bareName given == name

/-- The container of an id; of several the one listed last counts. -/
def ofId? (containers : List Container) (id : String) : Option Container :=
  containers.reverse.find? fun container => container.id == id

/-- The containers of a list of ids, in its order; ids without a container are passed over. -/
def ofIds (containers : List Container) (ids : List String) : List Container :=
  ids.filterMap (ofId? containers)

end Container
end Fleet
