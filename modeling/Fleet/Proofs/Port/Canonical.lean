import Fleet.Port.Basic
import Fleet.Proofs.Port.Merging
import Fleet.Proofs.Port.PublishSpec

namespace Fleet

/-!
# Canonical ports

However a port is spelled, the fleet keeps it in one way: with at least one of the two ports, neither of them
zero, and with a protocol in lower case.  A list of ports has no mapping twice.

There are many sources of mappings, and few ways to make one: a number, a publish specification, an object, an
entry of a pod, and a host port that is added for a proxy.  Each makes canonical mappings only.  Lists are made
by merging, which keeps what it is given and repeats nothing, so a list is canonical whatever it is merged from.
-/

/-! ## Numbers -/

/-- A number that a port can have. -/
def IsPort (port : UInt16) : Prop :=
  1 ≤ port.toNat ∧ port.toNat ≤ 65535

instance (port : UInt16) : Decidable (IsPort port) :=
  inferInstanceAs (Decidable (_ ∧ _))

theorem isPort_ofNat {n : Int} (least : 1 ≤ n) (greatest : n ≤ 65535) : IsPort (UInt16.ofNat n.toNat) := by
  have value : (UInt16.ofNat n.toNat).toNat = n.toNat := by
    rw [UInt16.toNat_ofNat']
    omega
  unfold IsPort
  omega

namespace PublishSpec

variable {port : UInt16}

theorem isPort_portInRange {n : Int} (read : portInRange n = .ok port) : IsPort port := by
  rcases portInRange_eq_ok_iff.1 read with ⟨⟨least, greatest⟩, rfl⟩
  exact isPort_ofNat least greatest

theorem isPort_portNumber {text : List Char} (read : portNumber text = .ok port) : IsPort port := by
  rcases portNumber_eq_ok_iff.1 read with ⟨n, _, range, rfl⟩
  exact isPort_portInRange (portInRange_ofNat_eq_ok_iff.2 ⟨range, rfl⟩)

theorem isPort_optionalPort {text : List Char} (read : optionalPort text = .ok (some port)) : IsPort port := by
  unfold optionalPort at read
  split at read
  · cases read
  · rcases exists_ok_of_map read with ⟨given, found, same⟩
    exact Option.some.inj same ▸ isPort_portNumber found

end PublishSpec

theorem LooseNumber.isPort_toPort {number : LooseNumber} {port : UInt16} (read : number.toPort = .ok port) :
    IsPort port := by
  cases number with
  | whole n => exact PublishSpec.isPort_portInRange read
  | real x =>
      simp only [toPort] at read
      split at read
      · exact PublishSpec.isPort_portInRange read
      · cases read
  | text s => exact PublishSpec.isPort_portNumber read

/-! ## Mappings -/

namespace PortMapping

/-- A protocol as it is kept. -/
structure IsProtocol (name : String) : Prop where
  named : name ≠ ""
  /-- No letter from `A` to `Z`. -/
  small : ∀ c ∈ name.toList, c.isUpper = false
  trimmed : Text.trimmed name = name

/-- A mapping as it is kept. -/
structure Canonical (mapping : PortMapping) : Prop where
  binds : mapping.hostPort.isSome ∨ mapping.containerPort.isSome
  hostPort : ∀ port ∈ mapping.hostPort, IsPort port
  containerPort : ∀ port ∈ mapping.containerPort, IsPort port
  protocol : IsProtocol mapping.protocol

theorem isProtocol_default : IsProtocol defaultProtocol where
  named := by decide
  small := by
    have none : defaultProtocol.toList.all (fun c => !c.isUpper) = true := by decide
    intro c member
    simpa using List.all_eq_true.1 none c member
  trimmed := by decide

/-- A text that says something is a protocol once it is trimmed and in lower case. -/
theorem isProtocol_lowerCase {text : String} (solid : Text.trimmed text ≠ "") :
    IsProtocol (Text.lowerCase (Text.trimmed text)) where
  named := by
    intro empty
    have lower : Text.lowered (Text.trimmed text).toList = [] := String.ofList_eq_empty_iff.1 empty
    rw [Text.lowered, List.map_eq_nil_iff] at lower
    exact solid (String.toList_eq_nil_iff.1 lower)
  small := by
    intro c member
    rw [Text.lowerCase, String.toList_ofList] at member
    rcases List.mem_map.1 member with ⟨d, _, rfl⟩
    exact Text.isUpper_toLower d
  trimmed := by
    rw [Text.trimmed, Text.lowerCase, String.toList_ofList, Text.toList_trimmed, Text.trim_lowered_trim]

theorem isProtocol_normalizeProtocol (protocol : Option String) : IsProtocol (normalizeProtocol protocol) := by
  unfold normalizeProtocol
  split
  · exact isProtocol_default
  · rename_i name found
    rcases Option.map_eq_some_iff.1 found with ⟨given, _, rfl⟩
    split
    · exact isProtocol_default
    · rename_i solid
      exact isProtocol_lowerCase fun empty => solid (String.isEmpty_iff.2 empty)

theorem canonical_onHost {port : UInt16} (valid : IsPort port) : (onHost port).Canonical where
  binds := Or.inl rfl
  hostPort := fun _ member => Option.some.inj member ▸ valid
  containerPort := fun _ member => Option.some.inj member ▸ valid
  protocol := isProtocol_default

theorem Canonical.resolveHostIp {mapping : PortMapping} (canonical : mapping.Canonical) (nodeIp : String) :
    (PortMapping.resolveHostIp nodeIp mapping).Canonical := by
  unfold PortMapping.resolveHostIp
  split
  · exact ⟨canonical.binds, canonical.hostPort, canonical.containerPort, canonical.protocol⟩
  · exact canonical

theorem binds_of_given {hostPort containerPort : Option UInt16}
    (given : ¬ (hostPort.isNone && containerPort.isNone) = true) : hostPort.isSome ∨ containerPort.isSome := by
  cases hostPort with
  | some _ => exact Or.inl rfl
  | none =>
      cases containerPort with
      | some _ => exact Or.inr rfl
      | none => exact absurd rfl given

/-- A mapping of a container port, and of a host port that may be absent. -/
theorem canonical_of_container {hostPort : Option UInt16} {containerPort : UInt16} (protocol : Option String)
    (hostIp : Option String) (host : ∀ port ∈ hostPort, IsPort port) (container : IsPort containerPort) :
    Canonical ⟨hostPort, some containerPort, normalizeProtocol protocol, hostIp⟩ where
  binds := Or.inr rfl
  hostPort := host
  containerPort := fun _ member => Option.some.inj member ▸ container
  protocol := isProtocol_normalizeProtocol protocol

end PortMapping

open PortMapping

namespace PublishSpec

/-- Whatever the number of segments, the ports of a specification are port numbers. -/
theorem Reads.isPort {bracketed : Option (List Char)} {segments : List (List Char)} {address : Option (List Char)}
    {hostPort : Option UInt16} {containerPort : UInt16}
    (reads : Reads bracketed segments address hostPort containerPort) :
    (∀ port ∈ hostPort, IsPort port) ∧ IsPort containerPort := by
  cases reads with
  | container number => exact ⟨nofun, isPort_portNumber number⟩
  | host given number | address given number =>
      exact ⟨fun _ same => isPort_optionalPort (given.trans (congrArg _ same)), isPort_portNumber number⟩

theorem canonical_parse {value : String} {hostNetwork : Bool} {mapping : PortMapping}
    (parsed : parse value hostNetwork = .ok mapping) : mapping.Canonical := by
  rcases parse_eq_ok_iff.1 parsed with ⟨bracketed, rest, address, hostPort, containerPort, _, reads, rfl⟩
  rcases reads.isPort with ⟨host, container⟩
  refine canonical_of_container _ _ (fun port chosen => ?_) container
  -- The host port is the one given, or with host networking the one of the container.
  rcases Option.or_eq_some_iff.1 chosen with given | ⟨_, defaulted⟩
  · exact host port given
  · split at defaulted
    · exact Option.some.inj defaulted ▸ container
    · cases defaulted

end PublishSpec

namespace LoosePort

theorem isPort_portOf {field : Option LooseNumber} {port : UInt16} (read : portOf field = .ok (some port)) :
    IsPort port := by
  cases field with
  | none => cases read
  | some number =>
      rcases exists_ok_of_map read with ⟨given, found, same⟩
      exact Option.some.inj same ▸ LooseNumber.isPort_toPort found

theorem canonical_normalize {port : LoosePort} {mapping : PortMapping}
    (normalized : port.normalize = .ok mapping) : mapping.Canonical := by
  unfold LoosePort.normalize at normalized
  rcases exists_ok_of_bind normalized with ⟨hostPort, host, rest⟩
  rcases exists_ok_of_bind rest with ⟨containerPort, container, finished⟩
  split at finished
  · cases finished
  · rename_i given
    cases finished
    exact ⟨binds_of_given given, fun _ same => isPort_portOf (host.trans (congrArg _ same)),
      fun _ same => isPort_portOf (container.trans (congrArg _ same)), isProtocol_normalizeProtocol _⟩

end LoosePort

namespace PortMapping

theorem canonical_ofText {text : String} {mapping : PortMapping} (read : ofText text = .ok mapping) :
    mapping.Canonical := by
  rw [ofText_eq_ite] at read
  split at read
  · rcases exists_ok_of_map read with ⟨port, found, rfl⟩
    have plain := canonical_onHost (PublishSpec.isPort_portNumber found)
    exact ⟨plain.binds, plain.hostPort, plain.containerPort, isProtocol_normalizeProtocol _⟩
  · exact PublishSpec.canonical_parse read

/-- Whatever is read of a port is canonical. -/
theorem canonical_normalize {entry : Json} {mapping : PortMapping} (read : normalize entry = .ok mapping) :
    mapping.Canonical := by
  unfold normalize at read
  split at read
  · exact canonical_ofText read
  · split at read
    · rcases exists_ok_of_map read with ⟨port, number, rfl⟩
      exact canonical_onHost (LooseNumber.isPort_toPort number)
    · cases read
  · split at read
    · exact LoosePort.canonical_normalize read
    · cases read
  · cases read

/-! ## Lists -/

/-- A list of ports as it is kept. -/
structure CanonicalList (ports : List PortMapping) : Prop where
  entries : ∀ mapping ∈ ports, mapping.Canonical
  once : (ports.map identity).Nodup

variable {ports extra : List PortMapping}

theorem canonicalList_nil : CanonicalList [] :=
  ⟨fun _ member => absurd member List.not_mem_nil, List.nodup_nil⟩

/-- Merging keeps a list canonical, whether or not what is merged into it repeats mappings. -/
theorem CanonicalList.merge (canonical : CanonicalList ports) (entries : ∀ mapping ∈ extra, mapping.Canonical) :
    CanonicalList (PortMapping.merge ports extra) where
  entries := fun _ member => (mem_merge member).elim (canonical.entries _) (entries _)
  once := nodup_identity_merge extra canonical.once

theorem canonicalList_merge (entries : ∀ mapping ∈ extra, mapping.Canonical) : CanonicalList (merge [] extra) :=
  canonicalList_nil.merge entries

theorem canonicalList_normalizeAll (entries : List Json) : CanonicalList (normalizeAll entries) := by
  refine canonicalList_merge fun mapping member => ?_
  rcases exists_ok_of_mem_filterMap member with ⟨entry, _, read⟩
  exact canonical_normalize read

theorem CanonicalList.resolveHostIps (canonical : CanonicalList ports) (nodeIp : Option String) :
    CanonicalList (PortMapping.resolveHostIps nodeIp ports) := by
  cases nodeIp with
  | none => exact canonical
  | some ip =>
      refine ⟨fun mapping member => ?_, ?_⟩
      · rcases List.mem_map.1 member with ⟨given, listed, rfl⟩
        exact (canonical.entries given listed).resolveHostIp ip
      · change ((ports.map (resolveHostIp ip)).map identity).Nodup
        rw [List.map_map]
        exact (List.map_congr_left fun mapping _ => identity_resolveHostIp ip mapping) ▸ canonical.once

end PortMapping

end Fleet
