import Fleet.Port.PublishSpec
import Fleet.Yaml.Value

namespace Fleet
namespace Workload

/-!
# Ports of pod definitions

A stream of documents defines pods, directly or as the template of a workload.  The ports are those of
their containers and initialising containers, merged in the order in which they stand.  The ports of two
streams one after the other are the merged ports of the two.
-/

/-- The lists of containers in the specification of a pod. -/
def containerLists : List String :=
  ["containers", "initContainers"]

def port? (value : Option Yaml.Value) : Option UInt16 := do
  let n ← (← value).whole?
  if 1 ≤ n ∧ n ≤ 65535 then some (UInt16.ofNat n.toNat) else none

/-- The mapping that a port entry asks for.  On the network of the host a container port is a host port. -/
def mapping? (hostNetwork : Bool) (entry : Yaml.Value) : Option PortMapping :=
  let containerPort := port? (entry.get? "containerPort")
  let hostPort := (port? (entry.get? "hostPort")).or (if hostNetwork then containerPort else none)
  if hostPort.isNone && containerPort.isNone then none
  else
    some
      { hostPort
        containerPort
        protocol := PortMapping.normalizeProtocol ((entry.get? "protocol").bind Yaml.Value.text?)
        hostIp := (entry.get? "hostIP").bind Yaml.Value.text? }

/-- The items of a sequence under a key, if there is one. -/
def itemsUnder (value : Yaml.Value) (key : String) : List Yaml.Value :=
  ((value.get? key).bind Yaml.Value.items?).getD []

def usesHostNetwork (spec : Yaml.Value) : Bool :=
  ((spec.get? "hostNetwork").bind Yaml.Value.bool?).getD false

/-- The mappings that the specification of a pod asks for, in order. -/
def requested (spec : Yaml.Value) : List PortMapping :=
  let entries := containerLists.flatMap fun list =>
    (itemsUnder spec list).flatMap fun container => itemsUnder container "ports"
  entries.filterMap (mapping? (usesHostNetwork spec))

/-- The specifications of pods in a document: the one of a pod itself, and the one of a template. -/
def podSpecs (document : Yaml.Value) : List Yaml.Value :=
  match document.get? "spec" with
  | none => []
  | some spec =>
      let own := if containerLists.any fun list => (spec.get? list).isSome then [spec] else []
      own ++ ((spec.get? "template").bind fun template => template.get? "spec").toList

def ports (documents : List Yaml.Value) : List PortMapping :=
  PortMapping.merge [] (documents.flatMap fun document => (podSpecs document).flatMap requested)

/-- The ports that a text of documents asks for; none if the text is malformed. -/
def portsIn? (text : String) : Option (List PortMapping) :=
  (Yaml.values? text).map ports

end Workload
end Fleet
