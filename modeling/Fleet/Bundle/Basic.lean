import Fleet.Port.Basic
import Fleet.Text.Cut

namespace Fleet

/-!
# Bundles

A bundle is a logical application: the services of a node that share a pod or depend on one another,
with everything that belongs to them.
-/

/-- Why one unit depends on another. -/
inductive DependencyReason where
  | requires
  | after
  | wants
  | bindsTo
  deriving DecidableEq

namespace DependencyReason

/-- All reasons, in the order in which summaries list them. -/
def all : List DependencyReason :=
  [requires, after, wants, bindsTo]

/-- The directive that states a dependency for the reason. -/
def word : DependencyReason → String
  | requires => "Requires"
  | after => "After"
  | wants => "Wants"
  | bindsTo => "BindsTo"

/-- What a summary calls the dependencies for the reason. -/
def label : DependencyReason → String
  | requires => "Hard dependencies"
  | after => "Ordered after"
  | wants => "Soft dependencies"
  | bindsTo => "Binding relationships"

/-- Whether a unit cannot run without what it depends on for the reason. -/
def isHard : DependencyReason → Bool
  | requires => true
  | after => false
  | wants => false
  | bindsTo => true

def codec : Codec DependencyReason :=
  .word (all.map fun reason => (reason.word, reason)) word

end DependencyReason

/-- A dependency of one unit on another. -/
structure GraphEdge where
  source : String
  target : String
  reason : DependencyReason
  deriving DecidableEq

namespace GraphEdge

def record : Record GraphEdge GraphEdge :=
  mk <$> .required ⟨"from", []⟩ source .text
    <*> .required ⟨"to", []⟩ target .text
    <*> .required ⟨"reason", []⟩ reason DependencyReason.codec

def codec : Codec GraphEdge :=
  record.codec

end GraphEdge

/-- How urgently a bundle needs attention. -/
inductive Severity where
  | ok
  | warning
  | critical
  deriving DecidableEq

namespace Severity

def word : Severity → String
  | ok => "ok"
  | warning => "warning"
  | critical => "critical"

def codec : Codec Severity :=
  .word ([ok, warning, critical].map fun severity => (severity.word, severity)) word

end Severity

/-- A service as a bundle lists it. -/
structure BundleService where
  name : String
  activeState : String
  unitFile : Option String
  deriving DecidableEq

namespace BundleService

def record : Record BundleService BundleService :=
  mk <$> .required ⟨"name", []⟩ name .text
    <*> .required ⟨"activeState", []⟩ activeState .text
    <*> .optional ⟨"unitFile", []⟩ unitFile .text

def codec : Codec BundleService :=
  record.codec

end BundleService

/-- A container as a bundle lists it. -/
structure BundleContainer where
  id : String
  name : String
  image : String
  state : String
  deriving DecidableEq

namespace BundleContainer

def record : Record BundleContainer BundleContainer :=
  mk <$> .required ⟨"id", []⟩ id .text
    <*> .required ⟨"name", []⟩ name .text
    <*> .required ⟨"image", []⟩ image .text
    <*> .required ⟨"state", []⟩ state .text

def codec : Codec BundleContainer :=
  record.codec

end BundleContainer

/-- What a file of a bundle is for. -/
inductive AssetKind where
  | container
  | kube
  | pod
  | unit
  | yaml
  | other
  deriving DecidableEq

namespace AssetKind

def word : AssetKind → String
  | container => "container"
  | kube => "kube"
  | pod => "pod"
  | unit => "unit"
  | yaml => "yaml"
  | other => "other"

def codec : Codec AssetKind :=
  .word ([container, kube, pod, unit, yaml, other].map fun kind => (kind.word, kind)) word

/-- The kind that a path shows by what follows its last point. -/
def ofPath (path : String) : AssetKind :=
  match (Text.cutLast '.' path.toList).map fun parts => String.ofList parts.2 with
  | some "container" => container
  | some "kube" => kube
  | some "pod" => pod
  | some "service" => unit
  | some "yaml" => yaml
  | some "yml" => yaml
  | _ => other

end AssetKind

/-- A file that belongs to a bundle. -/
structure BundleAsset where
  path : String
  kind : AssetKind
  deriving DecidableEq

namespace BundleAsset

def record : Record BundleAsset BundleAsset :=
  mk <$> .required ⟨"path", []⟩ path .text
    <*> .required ⟨"kind", []⟩ kind AssetKind.codec

def codec : Codec BundleAsset :=
  record.codec

end BundleAsset

/-- A logical application on a node. -/
structure Bundle where
  id : String
  displayName : String
  derivedName : String
  nodeName : String
  services : List BundleService
  containers : List BundleContainer
  ports : List PortMapping
  assets : List BundleAsset
  graph : List GraphEdge
  hints : List String
  severity : Severity
  deriving DecidableEq

namespace Bundle

def record : Record Bundle Bundle :=
  mk <$> .required ⟨"id", []⟩ id .text
    <*> .required ⟨"displayName", []⟩ displayName .text
    <*> .required ⟨"derivedName", []⟩ derivedName .text
    <*> .required ⟨"nodeName", []⟩ nodeName .text
    <*> .required ⟨"services", []⟩ services (.list BundleService.codec)
    <*> .required ⟨"containers", []⟩ containers (.list BundleContainer.codec)
    <*> .required ⟨"ports", []⟩ ports (.list PortMapping.codec)
    <*> .required ⟨"assets", []⟩ assets (.list BundleAsset.codec)
    <*> .required ⟨"graph", []⟩ graph (.list GraphEdge.codec)
    <*> .required ⟨"hints", []⟩ hints (.list .text)
    <*> .required ⟨"severity", []⟩ severity Severity.codec

def codec : Codec Bundle :=
  record.codec

end Bundle
end Fleet
