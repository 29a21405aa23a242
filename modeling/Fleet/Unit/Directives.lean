import Fleet.Unit.Assignment
import Fleet.Unit.Name

namespace Fleet
namespace Unit

/-!
# Directives of unit files

The directives that matter to the fleet, and the type of unit that a file defines.  Every directive is
known under its section and its key.  One that lists something adds to what earlier assignments listed;
any other replaces an earlier value.
-/

/-- The type of unit that a file defines. -/
inductive SourceType where
  | container
  | pod
  | kube
  | service
  | unknown
  deriving DecidableEq

namespace SourceType

def word : SourceType → String
  | container => "container"
  | pod => "pod"
  | kube => "kube"
  | service => "service"
  | unknown => "unknown"

/-- The type that a text shows by the section markers in it, in whatever case and wherever they stand. -/
def detect (content : String) : SourceType :=
  let text := Text.lowered content.toList
  let mentions (marker : String) : Bool := Text.occursIn marker.toList text
  if mentions "[container]" then container
  else if mentions "[pod]" then pod
  else if mentions "[kube]" then kube
  else if mentions "[unit]" && mentions "[service]" then service
  else unknown

end SourceType

/-- A directive that the fleet knows. -/
inductive Directive where
  | requires
  | after
  | wants
  | bindsTo
  | description
  | containerName
  | pod
  | network
  | publishPort
  | yaml
  deriving DecidableEq

namespace Directive

def ofSection (heading : String) : List (String × Directive) :=
  if heading = "unit" then
    [("requires", requires), ("after", after), ("wants", wants), ("bindsto", bindsTo),
      ("description", description)]
  else if heading = "container" ∨ heading = "x-container" then
    [("containername", containerName), ("pod", pod), ("network", network),
      ("publishport", publishPort)]
  else if heading = "pod" then
    [("network", network), ("publishport", publishPort)]
  else if heading = "kube" then
    [("network", network), ("publishport", publishPort), ("yaml", yaml)]
  else []

/-- The directive that an assignment gives, if the fleet knows it. -/
def of? (assignment : Assignment) : Option Directive :=
  (ofSection assignment.heading).lookup assignment.key

end Directive

/-- What a unit file says. -/
structure Directives where
  sourceType : SourceType
  description : Option String
  requires : List String
  after : List String
  wants : List String
  bindsTo : List String
  /-- The name that the container gets instead of one made from the unit's. -/
  containerName : Option String
  pod : Option String
  networks : List String
  /-- The ports to publish, as they are written. -/
  publishPorts : List String
  kubeYaml : Option String
  deriving DecidableEq

namespace Directives

def silent (sourceType : SourceType) : Directives :=
  ⟨sourceType, none, [], [], [], [], none, none, [], [], none⟩

def apply (directives : Directives) (directive : Directive) (value : String) : Directives :=
  match directive with
  | .requires => { directives with requires := directives.requires ++ namesIn value }
  | .after => { directives with after := directives.after ++ namesIn value }
  | .wants => { directives with wants := directives.wants ++ namesIn value }
  | .bindsTo => { directives with bindsTo := directives.bindsTo ++ namesIn value }
  | .description => { directives with description := some value }
  | .containerName => { directives with containerName := some value }
  | .pod => { directives with pod := some (podName value) }
  | .network => { directives with networks := directives.networks ++ [value] }
  | .publishPort => { directives with publishPorts := directives.publishPorts ++ [value] }
  | .yaml => { directives with kubeYaml := some value }

/-- Take an assignment into account, if its directive is known. -/
def assign (directives : Directives) (assignment : Assignment) : Directives :=
  match Directive.of? assignment with
  | some directive => directives.apply directive assignment.value
  | none => directives

def parse (content : String) : Directives :=
  (assignments content).foldl assign (silent (SourceType.detect content))

def usesHostNetwork (directives : Directives) : Bool :=
  directives.networks.contains "host"

end Directives
end Unit
end Fleet
