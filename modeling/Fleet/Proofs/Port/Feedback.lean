import Fleet.Proofs.Codec.Alike
import Fleet.Proofs.Port.NormalForm

namespace Fleet

open Codec Record

/-!
# Feeding lists of ports back

A list of ports as it is kept repeats no mapping, so merging it again changes nothing, and every mapping of it is
read as it was written.  So the list comes back as it is, in whatever order the fields of its mappings arrive,
unless one of them has an address of blanks.
-/

namespace PortMapping

theorem isLeaf_of_mem_field {name : String} {value : Option Json} {field : String × Json}
    (member : field ∈ LoosePort.field name value) (leaf : ∀ document ∈ value, document.IsLeaf) : field.2.IsLeaf := by
  cases value with
  | none => cases member
  | some document => exact List.mem_singleton.1 member ▸ leaf document rfl

theorem isLeaf_of_mem_write {mapping : PortMapping} {field : String × Json} (member : field ∈ record.write mapping) :
    field.2.IsLeaf := by
  have numbers : ∀ port : Option UInt16, ∀ document ∈ port.map word16.encode, document.IsLeaf := by
    intro port document given
    rcases Option.map_eq_some_iff.1 given with ⟨_, _, rfl⟩
    trivial
  have texts : ∀ text : Option String, ∀ document ∈ text.map Json.string, document.IsLeaf := by
    intro text document given
    rcases Option.map_eq_some_iff.1 given with ⟨_, _, rfl⟩
    trivial
  rw [write_eq_fields, LoosePort.fields, List.mem_append, List.mem_append, List.mem_append] at member
  rcases member with ((host | container) | protocol) | address
  · exact isLeaf_of_mem_field host (numbers _)
  · exact isLeaf_of_mem_field container (numbers _)
  · exact isLeaf_of_mem_field protocol (texts (some mapping.protocol))
  · exact isLeaf_of_mem_field address (texts _)

/-- A list of ports as it is kept is read of what is written of it, if no address is of blanks. -/
theorem CanonicalList.normalizeAll_written {ports : List PortMapping} (canonical : CanonicalList ports)
    (addressed : ∀ mapping ∈ ports, ¬ mapping.HasBlankAddress) {items : List Json}
    (alike : List.Forall₂ Json.Alike items (ports.map codec.encode)) : normalizeAll items = ports := by
  have each : ∀ mapping ∈ ports, ∀ given : Json, given.Alike (codec.encode mapping) →
      normalize given = .ok mapping := by
    intro mapping member given written
    rcases written.exists_perm (fun _ => isLeaf_of_mem_write) with ⟨fields, rfl, order⟩
    have found := (canonical.entries mapping member).normalize_written order
    rwa [(filter_hostIp_eq_self_iff mapping).2 (addressed mapping member)] at found
  rw [normalizeAll, Json.filterMap_read (Json.forall₂_read each alike)]
  exact merge_eq_append canonical.once

end PortMapping

end Fleet
