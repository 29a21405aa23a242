import Fleet.Proofs.Port.Objects

namespace Fleet

/-!
# Feeding ports back

A mapping is written with the names of the fleet, and what was written is read as the mapping again, in whatever order
its fields stand.  One thing is in the way.  An address of blanks is no address to an object, and it is none between
colons if it is empty, but in brackets it is kept as it stands.  So a mapping is in normal form exactly if no such
address was given in the first place.
-/

namespace PortMapping

open PublishSpec

/-- An entry that is a specification with an address in brackets, and whose address is given but has only blanks. -/
inductive BlankAddress : Json → Prop
  /-- The address in brackets counts if there is no other one. -/
  | bracketed {text : String} {inside address rest : List Char}
      (spec : (parts (Text.trim text.toList)).1 = '[' :: inside)
      (cut : Text.cutAround [']', ':'] inside = some (address, rest))
      (alone : (Text.segments ':' rest).length < 3) (blank : address.all Text.isBlank = true) :
      BlankAddress (.string text)
  /-- An address between colons takes its place. -/
  | between {text : String} {inside address rest bare host container : List Char}
      (spec : (parts (Text.trim text.toList)).1 = '[' :: inside)
      (cut : Text.cutAround [']', ':'] inside = some (address, rest))
      (split : Text.segments ':' rest = [bare, host, container]) (given : bare ≠ [])
      (blank : bare.all Text.isBlank = true) : BlankAddress (.string text)

/-- Whether a mapping has an address of blanks. -/
def HasBlankAddress (mapping : PortMapping) : Prop :=
  ∃ ip ∈ mapping.hostIp, Text.isBlankText ip = true

theorem isBlankText_ofList (address : List Char) : Text.isBlankText (String.ofList address) = address.all Text.isBlank := by
  rw [Text.isBlankText, String.toList_ofList]

/-- Without brackets the text starts with the address between colons, and it does not start with a blank. -/
theorem not_blank_of_segments {text : String} {rest bare : List Char} {others : List (List Char)}
    (found : bracketed? (parts (Text.trim text.toList)).1 = some (none, rest))
    (split : Text.segments ':' rest = bare :: others) (given : bare ≠ []) : bare.all Text.isBlank = false := by
  cases bare with
  | nil => exact absurd rfl given
  | cons c more =>
      rcases (Text.prefix_of_segments split).trans (eq_of_bracketed?_none found ▸ parts_prefix _) with ⟨later, whole⟩
      have solid : Text.isBlank c = false := Text.isBlank_head_trim (by rw [← whole]; rfl)
      rw [List.all_cons, solid, Bool.false_and]

/-- A specification has an address of blanks exactly if one stands in brackets or behind them. -/
theorem hasBlankAddress_of_reads_iff {text : String} {bracketed address : Option (List Char)} {rest : List Char}
    {hostPort : Option UInt16} {containerPort : UInt16}
    (found : bracketed? (parts (Text.trim text.toList)).1 = some (bracketed, rest))
    (reads : Reads bracketed (Text.segments ':' rest) address hostPort containerPort) :
    (∃ given, address = some given ∧ given.all Text.isBlank = true) ↔ BlankAddress (.string text) := by
  constructor
  · rintro ⟨given, rfl, blank⟩
    rcases reads.address_eq with ⟨alone, same⟩ | ⟨bare, host, container, split, same⟩
    · rcases bracketed?_eq_some_some_iff.1 (same ▸ found) with ⟨inside, spec, cut⟩
      exact .bracketed spec cut alone blank
    · by_cases empty : bare.isEmpty = true
      · cases same.trans (if_pos empty)
      · cases same.trans (if_neg empty)
        have nonempty : given ≠ [] := fun none => empty (List.isEmpty_iff.2 none)
        cases bracketed with
        | none => exact absurd blank (Bool.eq_false_iff.1 (not_blank_of_segments found split nonempty))
        | some inBrackets =>
            rcases bracketed?_eq_some_some_iff.1 found with ⟨inside, spec, cut⟩
            exact .between spec cut split nonempty blank
  · intro entry
    cases entry with
    | bracketed spec cut alone blank =>
        cases found.symm.trans (bracketed?_eq_some_some_iff.2 ⟨_, spec, cut⟩)
        rcases reads.address_eq with ⟨_, rfl⟩ | ⟨bare, host, container, split, _⟩
        · exact ⟨_, rfl, blank⟩
        · rw [split] at alone
          exact absurd alone (Nat.lt_irrefl 3)
    | between spec cut split given blank =>
        cases found.symm.trans (bracketed?_eq_some_some_iff.2 ⟨_, spec, cut⟩)
        rcases reads.address_eq with ⟨alone, _⟩ | ⟨bare, host, container, same, rfl⟩
        · rw [split] at alone
          exact absurd alone (Nat.lt_irrefl 3)
        · cases split.symm.trans same
          exact ⟨_, if_neg fun empty => given (List.isEmpty_iff.1 empty), blank⟩

theorem hasBlankAddress_ofText_iff {text : String} {mapping : PortMapping} (read : ofText text = .ok mapping) :
    mapping.HasBlankAddress ↔ BlankAddress (.string text) := by
  rw [ofText_eq_ite] at read
  split at read
  · -- A numeral has no address, and does not start with a bracket.
    rename_i numeral
    rcases exists_ok_of_map read with ⟨port, _, rfl⟩
    have noBracket : ∀ inside, (parts (Text.trim text.toList)).1 ≠ '[' :: inside := by
      intro inside spec
      rw [spec] at numeral
      cases numeral
    constructor
    · rintro ⟨ip, given, _⟩
      cases given
    · intro entry
      cases entry with
      | bracketed spec | between spec => exact absurd spec (noBracket _)
  · rcases parse_eq_ok_iff.1 read with ⟨bracketed, rest, address, hostPort, containerPort, found, reads, rfl⟩
    rw [String.toList_ofList] at found
    rw [← hasBlankAddress_of_reads_iff found reads]
    constructor
    · rintro ⟨ip, given, blank⟩
      rcases Option.map_eq_some_iff.1 given with ⟨chars, same, rfl⟩
      exact ⟨chars, same, isBlankText_ofList chars ▸ blank⟩
    · rintro ⟨chars, rfl, blank⟩
      exact ⟨String.ofList chars, rfl, isBlankText_ofList chars ▸ blank⟩

/-- The address of an object is kept only if it says something. -/
theorem not_hasBlankAddress_of_object {port : LoosePort} {mapping : PortMapping}
    (normalized : port.normalize = .ok mapping) : ¬ mapping.HasBlankAddress := by
  rintro ⟨ip, given, blank⟩
  unfold LoosePort.normalize at normalized
  rcases exists_ok_of_bind normalized with ⟨hostPort, _, rest⟩
  rcases exists_ok_of_bind rest with ⟨containerPort, _, finished⟩
  split at finished
  · cases finished
  · cases finished
    have solid := (Option.filter_eq_some_iff.1 given).2
    rw [blank] at solid
    cases solid

/-- Of all entries that are read, those with an address of blanks give mappings with one. -/
theorem hasBlankAddress_iff {entry : Json} {mapping : PortMapping} (read : normalize entry = .ok mapping) :
    mapping.HasBlankAddress ↔ BlankAddress entry := by
  unfold normalize at read
  split at read
  · exact hasBlankAddress_ofText_iff read
  · split at read
    · rcases exists_ok_of_map read with ⟨port, _, rfl⟩
      exact ⟨fun ⟨_, given, _⟩ => (nomatch given), nofun⟩
    · cases read
  · split at read
    · exact ⟨fun blank => absurd blank (not_hasBlankAddress_of_object read), nofun⟩
    · cases read
  · cases read

theorem filter_hostIp_eq_self_iff (mapping : PortMapping) :
    mapping.hostIp.filter (fun ip => !Text.isBlankText ip) = mapping.hostIp ↔ ¬ mapping.HasBlankAddress := by
  unfold HasBlankAddress
  cases mapping.hostIp with
  | none => exact iff_of_true rfl fun ⟨_, given, _⟩ => nomatch given
  | some ip => cases blank : Text.isBlankText ip <;> simp [blank]

/-! ## The normal form -/

/-- What is read of an entry has an address that says something, if any, and what is written of it is read as the same
mapping, in both cases exactly if the entry has no address of blanks.  Otherwise that address is lost. -/
theorem normal_form_iff {entry : Json} {mapping : PortMapping} (read : normalize entry = .ok mapping) :
    ((∀ ip ∈ mapping.hostIp, Text.isBlankText ip = false) ↔ ¬ BlankAddress entry) ∧
      ∀ fields, fields.Perm (record.write mapping) →
        (normalize (.object fields) = .ok mapping ↔ ¬ BlankAddress entry) ∧
          normalize (.object fields) =
            .ok { mapping with hostIp := mapping.hostIp.filter fun ip => !Text.isBlankText ip } := by
  rw [← hasBlankAddress_iff read]
  refine ⟨?_, fun fields order => ?_⟩
  · unfold HasBlankAddress
    simp only [not_exists, not_and, Bool.not_eq_true]
  · have written := (canonical_normalize read).normalize_written order
    refine ⟨?_, written⟩
    rw [written, ← filter_hostIp_eq_self_iff]
    rcases mapping with ⟨hostPort, containerPort, protocol, hostIp⟩
    simp

/-- An address in brackets with blanks around the whole, written and read with its fields the other way round. -/
theorem normal_form_iff_in_brackets :
    let entry := Json.string " [::1]:8080:80/UDP "
    let mapping : PortMapping := ⟨some 8080, some 80, "udp", some "::1"⟩
    let fields := (record.write mapping).reverse
    normalize entry = .ok mapping ∧ ¬ BlankAddress entry ∧ normalize (.object fields) = .ok mapping := by
  intro entry mapping fields
  have read : normalize entry = .ok mapping := by decide +kernel +zetaReduce
  have solid : ∀ ip ∈ mapping.hostIp, Text.isBlankText ip = false := by decide +kernel +zetaReduce
  rcases normal_form_iff read with ⟨address, written⟩
  exact ⟨read, address.1 solid, (written fields (List.reverse_perm _)).1.2 (address.1 solid)⟩

/-- Empty brackets are kept as an address, and lost when the mapping is fed back. -/
theorem empty_brackets_lost :
    let mapping : PortMapping := ⟨some 8080, some 80, "tcp", some ""⟩
    normalize (.string "[]:8080:80") = .ok mapping ∧ (∃ ip ∈ mapping.hostIp, Text.isBlankText ip = true) ∧
      normalize (codec.encode mapping) = .ok { mapping with hostIp := none } := by
  intro mapping
  refine ⟨?_, ?_, ?_⟩ <;> decide +kernel +zetaReduce

end PortMapping
end Fleet
