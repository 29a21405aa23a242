import Fleet.Proofs.Port.Grammar
import Fleet.Proofs.Port.Objects

namespace Fleet

/-!
# Mappings written as publish specifications

A mapping of a container port can be written as a specification.  Its address is written bare or in brackets, and next to
an address the port of the host has a segment of its own even if it is left open, so that nothing is ambiguous.  What is
written is a text of the notation, and is therefore read as the mapping again.
-/

namespace PublishSpec

/-- How an address stands in a specification. -/
inductive AddressForm where
  | bare
  | bracketed

namespace AddressForm

/-- The addresses that can stand in a form.  A slash does no harm, since a protocol always follows. -/
def Admits : AddressForm → List Char → Prop
  | bare, address => address ≠ [] ∧ ':' ∉ address ∧ address.head? ≠ some '['
  | bracketed, address => ']' ∉ address

instance (form : AddressForm) (address : List Char) : Decidable (form.Admits address) :=
  match form with
  | bare => inferInstanceAs (Decidable (_ ∧ _))
  | bracketed => inferInstanceAs (Decidable (¬ _))

def write : AddressForm → List Char → List Char
  | bare, address => address
  | bracketed, address => '[' :: (address ++ [']'])

end AddressForm

def decimal (port : UInt16) : List Char :=
  (toString port.toNat).toList

/-- What stands in front of the container port. -/
def front (form : AddressForm) (address : Option (List Char)) (hostPort : Option UInt16) : List Char :=
  match address, hostPort with
  | none, none => []
  | none, some port => decimal port ++ [':']
  | some address, hostPort => form.write address ++ ':' :: ((hostPort.map decimal).getD [] ++ [':'])

/-- A mapping as a specification `[address:][host:]container/protocol`. -/
def render (form : AddressForm) (mapping : PortMapping) : String :=
  String.ofList (front form (mapping.hostIp.map String.toList) mapping.hostPort ++
    (mapping.containerPort.map decimal).getD [] ++ '/' :: mapping.protocol.toList)

/-- A mapping that can be told from its specification. -/
structure Renderable (form : AddressForm) (mapping : PortMapping) : Prop where
  containerPort : ∃ port, mapping.containerPort = some port ∧ IsPort port
  hostPort : ∀ port ∈ mapping.hostPort, IsPort port
  /-- The protocol is not empty, has no capitals and has no blanks around it. -/
  protocol : PortMapping.IsProtocol mapping.protocol
  slashless : '/' ∉ mapping.protocol.toList
  address : ∀ ip ∈ mapping.hostIp, form.Admits ip.toList

variable {form : AddressForm} {port : UInt16} {hostPort : Option UInt16}

theorem namesPort_decimal (valid : IsPort port) : NamesPort (decimal port) port := by
  have solid : ∀ c ∈ decimal port, Text.isBlank c = false :=
    fun c member => Text.isBlank_of_isDigit (Number.isDigit_of_mem_toString member)
  have trimmed : Text.trim (decimal port) = decimal port :=
    Text.trim_eq_self (fun c first => solid c (List.mem_of_head? first)) fun c last => solid c (List.mem_of_getLast? last)
  rcases Number.natural?_eq_some_iff.1 (Number.natural?_toString port.toNat) with ⟨numeral, value⟩
  exact ⟨valid, decimal port, Or.inl trimmed, numeral, value⟩

/-- An open port is written as nothing. -/
theorem namesOptionalPort_decimal (valid : ∀ port ∈ hostPort, IsPort port) :
    NamesOptionalPort ((hostPort.map decimal).getD []) hostPort := by
  cases hostPort with
  | none => exact .leftOpen rfl
  | some port => exact .given (namesPort_decimal (valid port rfl))

theorem spells_front {address : Option (List Char)} (admitted : ∀ given ∈ address, form.Admits given)
    (host : ∀ port ∈ hostPort, IsPort port) (container : IsPort port) :
    Spells (front form address hostPort ++ decimal port) address hostPort port := by
  cases address with
  | none =>
      cases hostPort with
      | none => exact .ports (.container (namesPort_decimal container))
      | some given =>
          have names := NamesPorts.host (.given (namesPort_decimal (host given rfl))) (namesPort_decimal container)
          simpa [front] using Spells.ports names
  | some address =>
      have given := namesOptionalPort_decimal host
      have names := namesPort_decimal container
      cases form with
      | bare =>
          rcases admitted address rfl with ⟨nonempty, free, unbracketed⟩
          have spelled := Spells.bare free unbracketed given names
          rw [if_neg fun empty => nonempty (List.isEmpty_iff.1 empty)] at spelled
          simpa [front, AddressForm.write] using spelled
      | bracketed =>
          have closed : ¬ [']', ':'] <:+: address := fun occurs => admitted address rfl (occurs.subset (.head _))
          simpa [front, AddressForm.write] using Spells.bracketed closed (.host given names)

theorem denotes_render {mapping : PortMapping} (renderable : Renderable form mapping) (hostNetwork : Bool) :
    Denotes (render form mapping) hostNetwork
      { mapping with hostPort := mapping.hostPort.or (if hostNetwork then mapping.containerPort else none) } := by
  rcases mapping with ⟨hostPort, containerPort, protocol, hostIp⟩
  rcases renderable.containerPort with ⟨port, rfl, container⟩
  have admitted : ∀ address ∈ hostIp.map String.toList, form.Admits address := by
    intro address given
    rcases Option.map_eq_some_iff.1 given with ⟨ip, known, rfl⟩
    exact renderable.address ip known
  refine ⟨_, some (String.ofList protocol.toList), hostIp.map String.toList, hostPort, port, ?_,
    spells_front admitted renderable.hostPort container, ?_⟩
  · rw [render, String.toList_ofList]
    exact .protocol renderable.slashless
  · rw [String.ofList_toList, renderable.protocol.normalizeProtocol, Option.map_map]
    have same : String.ofList ∘ String.toList = id := funext fun _ => String.ofList_toList
    rw [same, Option.map_id]
    rfl

/-- A mapping that was written is read again, and with host networking an open port of the host is that of the
container. -/
theorem parse_render {mapping : PortMapping} (renderable : Renderable form mapping) :
    parse (render form mapping) false = .ok mapping ∧
      parse (render form mapping) true =
        .ok { mapping with hostPort := mapping.hostPort.or mapping.containerPort } := by
  have plain := parse_of_denotes (denotes_render renderable false)
  rw [if_neg Bool.false_ne_true, Option.or_none] at plain
  exact ⟨plain, parse_of_denotes (denotes_render renderable true)⟩

/-- An address with colons and a slash, next to an open port of the host. -/
theorem parse_render_open_port :
    let mapping : PortMapping := ⟨none, some 80, "udp", some "fe80::1/64"⟩
    Renderable .bracketed mapping ∧ render .bracketed mapping = "[fe80::1/64]::80/udp" ∧
      parse (render .bracketed mapping) false = .ok mapping ∧
      parse (render .bracketed mapping) true = .ok { mapping with hostPort := some 80 } := by
  intro mapping
  have protocol : PortMapping.normalizeProtocol (some "udp") = mapping.protocol := by decide +kernel +zetaReduce
  have renderable : Renderable .bracketed mapping :=
    { containerPort := ⟨80, rfl, by decide +kernel⟩
      hostPort := nofun
      protocol := protocol ▸ PortMapping.isProtocol_normalizeProtocol (some "udp")
      slashless := by decide +kernel +zetaReduce
      address := by
        intro ip given
        cases given
        decide +kernel }
  exact ⟨renderable, by decide +kernel +zetaReduce, parse_render renderable⟩

end PublishSpec
end Fleet
