import Fleet.Proofs.Codec.Records
import Fleet.Proofs.Port.Canonical

namespace Fleet

open Record

/-!
# Ports that are given as objects

An object with the names of the fleet is read field by field, in whatever order the fields stand.  A mapping is written
as such an object, and so is a number that is to be the port on both sides.
-/

namespace LoosePort

/-- A field with a value that may not be given. -/
def field (name : String) (value : Option Json) : List (String × Json) :=
  (value.map (Prod.mk name)).toList

theorem keys_field (name : String) (value : Option Json) : ((field name value).map Prod.fst).Sublist [name] := by
  cases value with
  | none => exact List.nil_sublist _
  | some _ => exact List.Sublist.refl _

theorem valuesUnder_field (name : String) (value : Option Json) : valuesUnder name (field name value) = value.toList := by
  cases value with
  | none => rfl
  | some value => exact valuesUnder_eq_singleton (List.pairwise_singleton _ name) (List.mem_singleton_self _)

theorem valuesUnder_field_of_ne {name other : String} (different : name ≠ other) (value : Option Json) :
    valuesUnder name (field other value) = [] :=
  valuesUnder_eq_nil fun member => different (List.mem_singleton.1 ((keys_field other value).subset member))

/-- The fields of a port, under the names of the fleet. -/
def fields (hostPort containerPort protocol hostIp : Option Json) : List (String × Json) :=
  field "hostPort" hostPort ++ field "containerPort" containerPort ++ field "protocol" protocol ++
    field "hostIp" hostIp

variable {hostPort containerPort protocol hostIp : Option Json} {given : List (String × Json)} {port : LoosePort}

theorem keys_fields (hostPort containerPort protocol hostIp : Option Json) :
    ((fields hostPort containerPort protocol hostIp).map Prod.fst).Sublist (record.slots.map Slot.name) := by
  unfold fields
  rw [List.map_append, List.map_append, List.map_append]
  exact (((keys_field _ _).append (keys_field _ _)).append (keys_field _ _)).append (keys_field _ _)

theorem shows_fields (order : given.Perm (fields hostPort containerPort protocol hostIp)) :
    Shows (ofFields given) record.slots (fields hostPort containerPort protocol hostIp) := by
  have keys := keys_fields hostPort containerPort protocol hostIp
  exact shows_of_perm (by decide +kernel) order (List.Nodup.sublist keys (by decide +kernel)) keys.subset

theorem valuesUnder_fields (hostPort containerPort protocol hostIp : Option Json) :
    valuesUnder "hostPort" (fields hostPort containerPort protocol hostIp) = hostPort.toList ∧
      valuesUnder "containerPort" (fields hostPort containerPort protocol hostIp) = containerPort.toList ∧
      valuesUnder "protocol" (fields hostPort containerPort protocol hostIp) = protocol.toList ∧
      valuesUnder "hostIp" (fields hostPort containerPort protocol hostIp) = hostIp.toList := by
  simp [fields, valuesUnder_append, valuesUnder_field, valuesUnder_field_of_ne]

/-- Values that can be read for their fields are what is read of an object with these fields. -/
theorem decode_fields (order : given.Perm (fields hostPort containerPort protocol hostIp))
    (host : hostPort.mapM LooseNumber.decode = .ok port.hostPort)
    (container : containerPort.mapM LooseNumber.decode = .ok port.containerPort)
    (name : protocol.mapM Codec.text.decode = .ok port.protocol)
    (address : hostIp.mapM Codec.text.decode = .ok port.hostIp) : record.decode (.object given) = .ok port := by
  have shows := shows_fields order
  rcases valuesUnder_fields hostPort containerPort protocol hostIp with ⟨hosts, containers, names, addresses⟩
  have taken : record.take (ofFields given) = .ok port := by
    refine take_seq (take_seq (take_seq (take_map mk (take_may ?_ ?_ host)) (take_may ?_ ?_ container))
      (take_may ?_ ?_ name)) (take_may ?_ ?_ address)
    · exact (shows _ (.head _)).trans hosts
    · exact fun _ refused => nomatch refused
    · exact (shows _ (.tail _ (.head _))).trans containers
    · exact fun _ refused => nomatch refused
    · exact (shows _ (.tail _ (.tail _ (.head _)))).trans names
    · exact fun _ refused => nomatch refused
    · exact (shows _ (.tail _ (.tail _ (.tail _ (.head _))))).trans addresses
    · exact fun _ refused => nomatch refused
  change (record.take (ofFields given)).mapError Prod.snd = _
  rw [taken]
  rfl

end LoosePort

namespace PortMapping

open LoosePort

variable {given : List (String × Json)} {port : LoosePort} {mapping : PortMapping}

theorem normalize_of_decode (decoded : LoosePort.record.decode (.object given) = .ok port) :
    normalize (.object given) = port.normalize := by
  unfold normalize
  simp only [decoded]

/-! ## One number for both ports -/

theorem normalize_both {value : Json} {number : LooseNumber} (read : LooseNumber.decode value = .ok number)
    (order : given.Perm [("hostPort", value), ("containerPort", value)]) :
    normalize (.object given) = number.toPort.map onHost := by
  have decoded : (some value).mapM LooseNumber.decode = .ok (some number) := congrArg (Except.map some) read
  have both : given.Perm (fields (some value) (some value) none none) := order
  have object : LoosePort.record.decode (.object given) = .ok ⟨some number, some number, none, none⟩ :=
    decode_fields both decoded decoded rfl rfl
  rw [normalize_of_decode object]
  dsimp only [LoosePort.normalize, portOf]
  cases number.toPort <;> rfl

/-! ## Written mappings -/

theorem write_eq_fields (mapping : PortMapping) : record.write mapping =
    fields (mapping.hostPort.map Codec.word16.encode) (mapping.containerPort.map Codec.word16.encode)
      (some (.string mapping.protocol)) (mapping.hostIp.map Json.string) := by
  rcases mapping with ⟨hostPort, containerPort, protocol, hostIp⟩
  cases hostPort <;> cases containerPort <;> cases hostIp <;> rfl

/-- A port as it is written, read as a number. -/
theorem decode_word16 (port : UInt16) :
    LooseNumber.decode (Codec.word16.encode port) = .ok (.whole (Int.ofNat port.toNat)) :=
  congrArg Except.ok (if_pos (Number.fitsSigned64_ofNat port.toNat_lt))

theorem decode_written (order : given.Perm (record.write mapping)) :
    LoosePort.record.decode (.object given) =
      .ok ⟨mapping.hostPort.map fun port => .whole (Int.ofNat port.toNat),
        mapping.containerPort.map fun port => .whole (Int.ofNat port.toNat), some mapping.protocol, mapping.hostIp⟩ := by
  rw [write_eq_fields] at order
  have address : (mapping.hostIp.map Json.string).mapM Codec.text.decode = .ok mapping.hostIp := by
    cases mapping.hostIp <;> rfl
  exact decode_fields order (mapM_option_of_each decode_word16 _) (mapM_option_of_each decode_word16 _) rfl address

/-- A port that is written as a number is the port that is read. -/
theorem portOf_word16 {field : Option UInt16} (valid : ∀ port ∈ field, IsPort port) :
    portOf (field.map fun port => .whole (Int.ofNat port.toNat)) = .ok field := by
  cases field with
  | none => rfl
  | some port =>
      have read : PublishSpec.portInRange (Int.ofNat port.toNat) = .ok port :=
        PublishSpec.portInRange_ofNat_eq_ok_iff.2 ⟨valid port rfl, UInt16.ofNat_toNat.symm⟩
      exact congrArg (Except.map some) read

/-- A protocol as it is kept is one that names itself. -/
theorem IsProtocol.normalizeProtocol {name : String} (protocol : IsProtocol name) :
    PortMapping.normalizeProtocol (some name) = name := by
  have solid : ¬ name.isEmpty = true := fun empty => protocol.named (String.isEmpty_iff.1 empty)
  unfold PortMapping.normalizeProtocol
  simp only [Option.map_some, protocol.trimmed, if_neg solid]
  rw [Text.lowerCase, Text.lowered_eq_self protocol.small, String.ofList_toList]

/-- A mapping as it is kept can be read of what is written of it, but for an address of blanks. -/
theorem Canonical.normalize_written (canonical : mapping.Canonical) (order : given.Perm (record.write mapping)) :
    normalize (.object given) =
      .ok { mapping with hostIp := mapping.hostIp.filter fun ip => !Text.isBlankText ip } := by
  rw [normalize_of_decode (decode_written order)]
  dsimp only [LoosePort.normalize]
  rw [portOf_word16 canonical.hostPort, portOf_word16 canonical.containerPort, canonical.protocol.normalizeProtocol]
  have binds : (mapping.hostPort.isNone && mapping.containerPort.isNone) = false := by
    rcases canonical.binds with host | container
    · rw [Option.isNone_eq_false_iff.2 host, Bool.false_and]
    · rw [Option.isNone_eq_false_iff.2 container, Bool.and_false]
  exact if_neg (Bool.eq_false_iff.1 binds)

end PortMapping

end Fleet
