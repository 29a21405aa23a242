import Fleet.Number.Numeral
import Fleet.Port.Basic
import Fleet.Text.Cut
import Fleet.Text.Quoted

namespace Fleet

/-!
# Publish specifications

The notation in which unit files publish ports: `[address:][host:]container[/protocol]`.  A single port
is one of the container alone; with host networking the host port defaults to it.  An address that
contains colons stands in brackets.
-/

/-- Why a port entry could not be turned into a mapping. -/
inductive PortFault where
  /-- A text, or a number with a fraction, that does not denote a whole number. -/
  | notNumeric (text : String)
  /-- A whole number that is no port. -/
  | outOfRange (value : Int)
  /-- An entry that names no port at all. -/
  | empty
  /-- An entry in none of the accepted forms. -/
  | shape (text : String)
  deriving DecidableEq

def PortFault.message : PortFault → String
  | notNumeric text => "port value " ++ Text.quoted text ++ " is not numeric"
  | outOfRange value => "port " ++ toString value ++ " is outside 1-65535"
  | empty => "port entry has neither host nor container port"
  | shape text => "unsupported port shape: " ++ text

namespace PortMapping

/-- The protocol that a text names: without surrounding blanks and in lower case, or the default when
nothing is left. -/
def normalizeProtocol (protocol : Option String) : String :=
  match protocol.map Text.trimmed with
  | none => defaultProtocol
  | some name => if name.isEmpty then defaultProtocol else Text.lowerCase name

end PortMapping

namespace PublishSpec

/-- A whole number as a port, which zero is not. -/
def portInRange (n : Int) : Except PortFault UInt16 :=
  if 1 ≤ n ∧ n ≤ 65535 then .ok (UInt16.ofNat n.toNat) else .error (.outOfRange n)

/-- A port number in a text, blanks around it aside. -/
def portNumber (text : List Char) : Except PortFault UInt16 :=
  match Number.integer? 10 (Text.trim text) with
  | some n =>
      if Number.fitsSigned64 n then portInRange n else .error (.notNumeric (String.ofList text))
  | none => .error (.notNumeric (String.ofList text))

/-- A port number that may be left blank, as the host port is in `address::container`. -/
def optionalPort (text : List Char) : Except PortFault (Option UInt16) :=
  if text.all Text.isBlank then .ok none else (portNumber text).map some

/-- The address in brackets that a specification may start with, and what follows it. -/
def bracketed? (spec : List Char) : Option (Option (List Char) × List Char) :=
  match spec with
  | '[' :: inside => (Text.cutAround [']', ':'] inside).map fun parts => (some parts.1, parts.2)
  | _ => some (none, spec)

def parse (value : String) (hostNetwork : Bool) : Except PortFault PortMapping := do
  let (spec, protocol) :=
    match Text.cutLast '/' value.toList with
    | some (spec, protocol) => (spec, some (String.ofList protocol))
    | none => (value.toList, none)
  match bracketed? spec with
  | none => .error (.shape value)
  | some (address, rest) =>
      let (hostIp, hostPort, containerPort) ←
        match Text.segments ':' rest with
        | [container] => do
            let containerPort ← portNumber container
            pure (address, none, containerPort)
        | [host, container] => do
            let hostPort ← optionalPort host
            let containerPort ← portNumber container
            pure (address, hostPort, containerPort)
        | [bare, host, container] => do
            let hostPort ← optionalPort host
            let containerPort ← portNumber container
            pure (if bare.isEmpty then none else some bare, hostPort, containerPort)
        | _ => .error (.shape value)
      let hostPort :=
        match hostPort with
        | none => if hostNetwork then some containerPort else none
        | some port => some port
      .ok
        { hostPort
          containerPort := some containerPort
          protocol := PortMapping.normalizeProtocol protocol
          hostIp := hostIp.map String.ofList }

end PublishSpec
end Fleet
