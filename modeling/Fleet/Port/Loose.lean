import Fleet.Json.Printer
import Fleet.Port.PublishSpec

namespace Fleet

/-!
# Ports as agents report them

Agents of different ages report a port as a number, as a text, or as an object in one of three spellings.
All of them are read into the one `PortMapping` of the fleet; an entry that cannot be read is dropped
from a list and leaves the others alone.
-/

/-- A port number as it stands in a report. -/
inductive LooseNumber where
  | whole (n : Int)
  | real (x : Binary64)
  | text (s : String)

namespace LooseNumber

/-- A whole number too large for a signed word of 64 bits counts as floating-point. -/
def decode : Json → Except Fault LooseNumber
  | .number (.whole n) =>
      .ok (if Number.fitsSigned64 n then whole n else real (Binary64.ofInt n))
  | .number (.real x) => .ok (real x)
  | .string s => .ok (text s)
  | _ => .error .noAlternative

/-- The integer part of a floating-point number as a signed word of 64 bits; numbers beyond go to the
nearest end. -/
def integerPart (x : Binary64) : Int :=
  Number.clampSigned64 x.truncated

def toPort : LooseNumber → Except PortFault UInt16
  | whole n => PublishSpec.portInRange n
  | real x =>
      if x.isWhole then PublishSpec.portInRange (integerPart x)
      else .error (.notNumeric x.plainText)
  | text s => PublishSpec.portNumber s.toList

end LooseNumber

/-- The fields of a port that is reported as an object. -/
structure LoosePort where
  hostPort : Option LooseNumber
  containerPort : Option LooseNumber
  protocol : Option String
  hostIp : Option String

namespace LoosePort

def record : Record Unit LoosePort :=
  mk <$> .may ⟨"hostPort", ["host_port", "PublicPort"]⟩ LooseNumber.decode
    <*> .may ⟨"containerPort", ["container_port", "PrivatePort"]⟩ LooseNumber.decode
    <*> .may ⟨"protocol", ["Type"]⟩ Codec.text.decode
    <*> .may ⟨"hostIp", ["host_ip", "IP"]⟩ Codec.text.decode

/-- The port of a field, if it is given. -/
def portOf (field : Option LooseNumber) : Except PortFault (Option UInt16) :=
  match field with
  | none => .ok none
  | some number => number.toPort.map some

def normalize (port : LoosePort) : Except PortFault PortMapping := do
  let hostPort ← portOf port.hostPort
  let containerPort ← portOf port.containerPort
  if hostPort.isNone && containerPort.isNone then
    .error .empty
  else
    .ok
      { hostPort
        containerPort
        protocol := PortMapping.normalizeProtocol port.protocol
        hostIp := port.hostIp.filter fun ip => !Text.isBlankText ip }

end LoosePort

namespace PortMapping

/-- The mapping that a text stands for: `8080` and `8080/udp` publish one port on host and container,
anything else is a publish specification. -/
def ofText (text : String) : Except PortFault PortMapping := do
  let trimmed := Text.trim text.toList
  let (number, protocol) :=
    match Text.cutLast '/' trimmed with
    | some (number, protocol) => (number, some (String.ofList protocol))
    | none => (trimmed, none)
  if Number.isNumeral number then
    let port ← PublishSpec.portNumber number
    .ok { onHost port with protocol := normalizeProtocol protocol }
  else
    PublishSpec.parse (String.ofList trimmed) false

def normalize (entry : Json) : Except PortFault PortMapping :=
  match entry with
  | .string text => ofText text
  | .number _ =>
      match LooseNumber.decode entry with
      | .ok number => number.toPort.map onHost
      | .error _ => .error (.shape entry.compact)
  | .object _ =>
      match LoosePort.record.decode entry with
      | .ok port => port.normalize
      | .error _ => .error (.shape entry.compact)
  | _ => .error (.shape entry.compact)

/-- Read a list of port entries; those that cannot be read are dropped, and repeated ones merged. -/
def normalizeAll (entries : List Json) : List PortMapping :=
  merge [] (entries.filterMap fun entry => (normalize entry).toOption)

end PortMapping
end Fleet
