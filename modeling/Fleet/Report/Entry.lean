import Fleet.Container
import Fleet.Distinct
import Fleet.Json.Printer
import Fleet.Port.Loose
import Fleet.Proxy.Configuration
import Fleet.Report.Warning
import Fleet.Service
import Fleet.Unit.Name
import Fleet.Volume
import Fleet.Unit.Files

namespace Fleet
namespace Report

/-!
# The entries of a report

Containers, services, routes and files as agents and container engines spell them.  An entry has to have its
identity; every other field may be missing, and several may come in more than one form.
-/

/-! ## Values in more than one form -/

/-- One text, or a list of them. -/
def oneOrMany : Json → Except Fault (List String) :=
  Codec.firstOf .text (.list .text) (fun one => [one]) id

/-- Dependencies: one text with several names in it, or a list of such texts. -/
def dependencies (value : Json) : Except Fault (List String) :=
  (oneOrMany value).map fun lists => lists.flatMap Unit.namesIn

/-- Networks: a list of names, or an object with the names as keys. -/
def networks : Json → Except Fault (List String) :=
  Codec.firstOf (.list .text) (.keyed .document) id Keyed.keys

/-- The text of a label; a value that is no text is shown as it stands in a document. -/
def labelText : Json → String
  | .string text => text
  | other => other.compact

/-- Ports, if they are a list at all. -/
def portsOf : Option Json → List PortMapping
  | some (.array entries) => PortMapping.normalizeAll entries
  | _ => []

/-- A text that says something, or nothing. -/
def nonEmpty (text : Option String) : Option String :=
  text.filter fun text => !text.isEmpty

/-! ## Containers -/

/-- A process id, which is positive and fits 32 bits. -/
def processId (n : Int) : Option UInt32 :=
  if 1 ≤ n ∧ n < Int.ofNat (Number.twoTo 32) then some (UInt32.ofNat n.toNat) else none

/-- The container that the fields of a report describe. -/
def container (id : String) (names : Option (List String)) (image state : Option String)
    (ports : Option Json) (labels : Option (Keyed Json)) (networks : Option (List String))
    (isHostNetwork : Option Bool) (podId podName : Option String) (pid : Option Int) : Container where
  id := id
  names := names.getD []
  image := image.getD ""
  state := state.getD ""
  ports := portsOf ports
  labels := (labels.getD .empty).mapValues labelText
  networks := networks.getD []
  isHostNetwork := isHostNetwork.getD false || (networks.getD []).contains "host"
  podId := nonEmpty podId
  podName := nonEmpty podName
  pid := pid.bind processId
  verifiedDomains := none

/-- The fields of a container, in the fleet's spelling or with the capitals of container engines. -/
def containerRecord : Record PUnit Container :=
  container <$> .need ⟨"id", ["Id"]⟩ Codec.text.decode
    <*> .may ⟨"names", ["Names"]⟩ oneOrMany
    <*> .may ⟨"image", ["Image"]⟩ Codec.text.decode
    <*> .may ⟨"state", ["State"]⟩ Codec.text.decode
    <*> .may ⟨"ports", ["Ports"]⟩ Codec.document.decode
    <*> .may ⟨"labels", ["Labels"]⟩ (Codec.keyed .document).decode
    <*> .may ⟨"networks", ["Networks"]⟩ networks
    <*> .may ⟨"isHostNetwork", []⟩ Codec.flag.decode
    <*> .may ⟨"podId", ["Pod"]⟩ Codec.text.decode
    <*> .may ⟨"podName", ["PodName"]⟩ Codec.text.decode
    <*> .may ⟨"pid", ["Pid"]⟩ Codec.signed64.decode

def readContainer (value : Json) : Except Problem Container :=
  (containerRecord.decode value).mapError .misfit

/-! ## Services -/

def service (name : String) (activeState subState loadState description path : Option String)
    (associatedContainerIds : Option (List String)) (ports : Option Json)
    (isReverseProxy : Option Bool) (requires after wants bindsTo : Option (List String))
    (podReference : Option String) : Service :=
  { Service.named ((Unit.service? name).getD name) with
    activeState := activeState.getD ""
    subState := subState.getD ""
    loadState := loadState.getD ""
    description := description.getD ""
    path := path.getD ""
    associatedContainerIds := distinct (associatedContainerIds.getD [])
    declaredPorts := portsOf ports
    requires := requires.getD []
    after := after.getD []
    wants := wants.getD []
    bindsTo := bindsTo.getD []
    podReference := nonEmpty podReference
    reportedReverseProxy := isReverseProxy.getD false }

def serviceRecord : Record PUnit Service :=
  service <$> .need ⟨"name", ["unit"]⟩ Codec.text.decode
    <*> .may ⟨"activeState", []⟩ Codec.text.decode
    <*> .may ⟨"subState", []⟩ Codec.text.decode
    <*> .may ⟨"loadState", []⟩ Codec.text.decode
    <*> .may ⟨"description", []⟩ Codec.text.decode
    <*> .may ⟨"path", ["fragment_path"]⟩ Codec.text.decode
    <*> .may ⟨"associatedContainerIds", []⟩ (Codec.list .text).decode
    <*> .may ⟨"ports", []⟩ Codec.document.decode
    <*> .may ⟨"isReverseProxy", []⟩ Codec.flag.decode
    <*> .may ⟨"requires", []⟩ dependencies
    <*> .may ⟨"after", []⟩ dependencies
    <*> .may ⟨"wants", []⟩ dependencies
    <*> .may ⟨"bindsTo", []⟩ dependencies
    <*> .may ⟨"podReference", []⟩ Codec.text.decode

def readService (value : Json) : Except Problem Service :=
  match serviceRecord.decode value with
  | .error fault => .error (.misfit fault)
  | .ok service => if service.name.isEmpty then .error .unnamedService else .ok service

/-! ## Volumes -/

def readVolume (value : Json) : Except Problem Volume :=
  (Volume.codec.decode value).mapError .misfit

/-! ## Routes -/

/-- The port of a route, if it is one. -/
def routePort (number : LooseNumber) : Option UInt16 :=
  let value :=
    match number with
    | .whole n => some n
    | .real x => some (LooseNumber.integerPart x)
    | .text text => (Number.unsigned? 10 (Text.trim text.toList)).map Int.ofNat
  match value with
  | some n => if 1 ≤ n ∧ n ≤ 65535 then some (UInt16.ofNat n.toNat) else none
  | none => none

def route (host targetService : String) (targetPort : Option LooseNumber) (ssl : Option Bool) : Route where
  host := Text.trimmed host
  targetService := Text.trimmed targetService
  targetPort := targetPort.bind routePort
  ssl := ssl.getD false

def routeRecord : Record PUnit Route :=
  route <$> .need ⟨"host", []⟩ Codec.text.decode
    <*> .need ⟨"targetService", ["target_service"]⟩ Codec.text.decode
    <*> .may ⟨"targetPort", ["target_port"]⟩ LooseNumber.decode
    <*> .may ⟨"ssl", []⟩ Codec.flag.decode

def readRoute (value : Json) : Except Problem Route :=
  match routeRecord.decode value with
  | .error fault => .error (.misfit fault)
  | .ok route => if route.host.isEmpty then .error .unnamedHost else .ok route

/-! ## Files -/

/-- The file that the fields of a report describe; a file without a path has its key for one. -/
def file (key : String) (path content : Option String) (modified : Option Binary64) : WatchedFile where
  path := (nonEmpty path).getD key
  content := content.getD ""
  modified := modified.getD .zero

def fileRecord (key : String) : Record PUnit WatchedFile :=
  file key <$> .may ⟨"path", []⟩ Codec.text.decode
    <*> .may ⟨"content", []⟩ Codec.text.decode
    <*> .may ⟨"modified", []⟩ Codec.real.decode

def readFile (key : String) (value : Json) : Except Problem WatchedFile :=
  ((fileRecord key).decode value).mapError .misfit

end Report
end Fleet
