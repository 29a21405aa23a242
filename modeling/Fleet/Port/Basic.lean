import Fleet.Codec.Record
import Fleet.Text.Blank

namespace Fleet

/-!
# Port mappings

A port mapping binds a port of a container to a port of its host.  Two mappings with the same ports and
the same protocol are the same mapping to the fleet, whatever host address they name, and a list of
mappings is merged into another by adding those that are not there yet.  Merging therefore keeps what was
there, in its order, and never introduces a second mapping of one identity.
-/

/-- One port binding.  A binding that agents report has at least one of the two ports. -/
structure PortMapping where
  hostPort : Option UInt16
  containerPort : Option UInt16
  protocol : String
  hostIp : Option String
  deriving DecidableEq

namespace PortMapping

/-- The protocol of a mapping that names none. -/
def defaultProtocol : String := "tcp"

def record : Record PortMapping PortMapping :=
  mk <$> .optional ⟨"hostPort", []⟩ hostPort .word16
    <*> .optional ⟨"containerPort", []⟩ containerPort .word16
    <*> .defaulted ⟨"protocol", []⟩ protocol .text defaultProtocol
    <*> .optional ⟨"hostIp", []⟩ hostIp .text

def codec : Codec PortMapping :=
  record.codec

/-- A port that is the same on the host and in the container. -/
def onHost (port : UInt16) : PortMapping :=
  ⟨some port, some port, defaultProtocol, none⟩

/-- What makes two mappings the same one; the host address does not count. -/
def identity (mapping : PortMapping) : Option UInt16 × Option UInt16 × String :=
  (mapping.hostPort, mapping.containerPort, mapping.protocol)

/-- Add a mapping at the end unless the list has one of its identity. -/
def mergeOne (into : List PortMapping) (mapping : PortMapping) : List PortMapping :=
  if into.any fun known => known.identity == mapping.identity then into else into ++ [mapping]

/-- Add the mappings of a second list that the first does not have. -/
def merge (into extra : List PortMapping) : List PortMapping :=
  extra.foldl mergeOne into

@[simp] theorem merge_nil (into : List PortMapping) : merge into [] = into := rfl

theorem merge_append (into first second : List PortMapping) :
    merge into (first ++ second) = merge (merge into first) second :=
  List.foldl_append

/-- Merging never makes two mappings of one identity. -/
theorem nodup_identity_merge {into : List PortMapping} (extra : List PortMapping)
    (distinct : (into.map identity).Nodup) : ((merge into extra).map identity).Nodup := by
  induction extra generalizing into with
  | nil => exact distinct
  | cons mapping rest inductionHypothesis =>
      refine inductionHypothesis ?_
      unfold mergeOne
      split
      · exact distinct
      · rename_i fresh
        rw [List.map_append, List.nodup_append]
        refine ⟨distinct, by simp, ?_⟩
        intro left leftMember right rightMember
        obtain ⟨known, knownMember, rfl⟩ := List.mem_map.1 leftMember
        obtain rfl : right = mapping.identity := by simpa using rightMember
        intro same
        exact fresh (List.any_eq_true.2 ⟨known, knownMember, by simp [same]⟩)

/-! ## Wildcard host addresses

A port bound to every address of a host is reported with one of several wildcards, or with no address
at all.  The fleet shows such a port at the node's own first address, once that is known. -/

def wildcards : List String :=
  ["", "0.0.0.0", "::", "::0", "*"]

/-- Whether a host address is absent or a wildcard, blanks around it aside. -/
def isUnspecified (hostIp : Option String) : Bool :=
  match hostIp with
  | none => true
  | some ip => wildcards.contains (Text.trimmed ip)

/-- A mapping with its wildcard address replaced by the node's address. -/
def resolveHostIp (nodeIp : String) (mapping : PortMapping) : PortMapping :=
  if isUnspecified mapping.hostIp then { mapping with hostIp := some nodeIp } else mapping

/-- The mappings of a node whose first address is given, if it has one. -/
def resolveHostIps (nodeIp : Option String) (ports : List PortMapping) : List PortMapping :=
  match nodeIp with
  | none => ports
  | some ip => ports.map (resolveHostIp ip)

/-- Resolving an address never changes what a mapping is. -/
theorem identity_resolveHostIp (nodeIp : String) (mapping : PortMapping) :
    (resolveHostIp nodeIp mapping).identity = mapping.identity := by
  unfold resolveHostIp
  split <;> rfl

end PortMapping
end Fleet
