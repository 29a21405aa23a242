import Fleet.Port.Loose
import Fleet.Proofs.Numeral
import Fleet.Proofs.Results

namespace Fleet

/-!
# What publish specifications say

A specification is read from the outside to the inside: a protocol behind it, an address in brackets in front of it, and
then the segments between colons, of which the last is always the port of the container.  Everything that is to be known
of the reading is said by `Reads`, which has one case for each number of segments, and by the equations for the parts.
A bare number is no specification, and publishes its port on the host as well.
-/

namespace PublishSpec

/-! ## Port numbers -/

theorem portInRange_eq_ok_iff {n : Int} {port : UInt16} :
    portInRange n = .ok port ↔ (1 ≤ n ∧ n ≤ 65535) ∧ port = UInt16.ofNat n.toNat := by
  unfold portInRange
  split
  · rename_i range
    rw [Except.ok.injEq, and_iff_right range, eq_comm]
  · rename_i outside
    exact ⟨nofun, fun given => absurd given.1 outside⟩

theorem portInRange_ofNat_eq_ok_iff {n : Nat} {port : UInt16} :
    portInRange (Int.ofNat n) = .ok port ↔ (1 ≤ n ∧ n ≤ 65535) ∧ port = UInt16.ofNat n :=
  portInRange_eq_ok_iff.trans (and_congr (and_congr Int.ofNat_le Int.ofNat_le) Iff.rfl)

/-- A port number is a numeral in decimal, with a plus sign in front of it or without, and blanks around it. -/
theorem portNumber_eq_ok_iff {text : List Char} {port : UInt16} :
    portNumber text = .ok port ↔ ∃ n, Number.unsigned? 10 (Text.trim text) = some n ∧ (1 ≤ n ∧ n ≤ 65535) ∧
      port = UInt16.ofNat n := by
  unfold portNumber
  constructor
  · intro read
    split at read
    · rename_i value found
      split at read
      · have positive := (portInRange_eq_ok_iff.1 read).1.1
        rcases Number.unsigned?_eq_some_of_integer? found positive with ⟨n, reads, rfl⟩
        exact ⟨n, reads, portInRange_ofNat_eq_ok_iff.1 read⟩
      · cases read
    · cases read
  · rintro ⟨n, reads, range, rfl⟩
    rw [Number.integer?_of_unsigned? reads]
    dsimp only
    rw [if_pos (Number.fitsSigned64_ofNat (Nat.lt_succ_of_le range.2))]
    exact portInRange_ofNat_eq_ok_iff.2 ⟨range, rfl⟩

/-- Blanks around a port number make no difference. -/
theorem portNumber_trim_eq_ok_iff {text : List Char} {port : UInt16} :
    portNumber (Text.trim text) = .ok port ↔ portNumber text = .ok port := by
  rw [portNumber_eq_ok_iff, portNumber_eq_ok_iff, Text.trim_trim]

/-! ## The parts of a specification -/

/-- A text without the protocol that it may end with, and the protocol as it is written. -/
def parts (text : List Char) : List Char × Option String :=
  match Text.cutLast '/' text with
  | some (spec, protocol) => (spec, some (String.ofList protocol))
  | none => (text, none)

theorem parts_of_not_mem {text : List Char} (absent : '/' ∉ text) : parts text = (text, none) := by
  unfold parts
  rw [Text.cutLast_eq_none_iff.2 absent]

theorem parts_prefix (text : List Char) : (parts text).1 <+: text := by
  unfold parts
  cases cut : Text.cutLast '/' text with
  | none => exact List.prefix_rfl
  | some found => exact ⟨_, (Text.eq_of_cutLast cut).symm⟩

theorem bracketed?_eq_some_some_iff {spec address rest : List Char} :
    bracketed? spec = some (some address, rest) ↔
      ∃ inside, spec = '[' :: inside ∧ Text.cutAround [']', ':'] inside = some (address, rest) := by
  unfold bracketed?
  split
  · simp
  · rename_i plain
    exact ⟨nofun, fun ⟨inside, starts, _⟩ => absurd starts (plain inside)⟩

theorem eq_of_bracketed?_none {spec rest : List Char} (found : bracketed? spec = some (none, rest)) : rest = spec := by
  unfold bracketed? at found
  split at found
  · rcases Option.map_eq_some_iff.1 found with ⟨parts, _, same⟩
    cases same
  · cases found
    rfl

/-- What is read of the segments of a specification, behind an address in brackets or none: an address, the port of the
host, which may be left open, and the port of the container. -/
inductive Reads (bracketed : Option (List Char)) :
    List (List Char) → Option (List Char) → Option UInt16 → UInt16 → Prop
  | container {text : List Char} {port : UInt16} (number : portNumber text = .ok port) :
      Reads bracketed [text] bracketed none port
  | host {host text : List Char} {hostPort : Option UInt16} {port : UInt16} (given : optionalPort host = .ok hostPort)
      (number : portNumber text = .ok port) : Reads bracketed [host, text] bracketed hostPort port
  /-- An address between colons takes the place of one in brackets, even if it is empty. -/
  | address {bare host text : List Char} {hostPort : Option UInt16} {port : UInt16}
      (given : optionalPort host = .ok hostPort) (number : portNumber text = .ok port) :
      Reads bracketed [bare, host, text] (if bare.isEmpty then none else some bare) hostPort port

/-- The address is the one between colons if there are enough of them, and the one in brackets otherwise. -/
theorem Reads.address_eq {bracketed : Option (List Char)} {segments : List (List Char)} {address : Option (List Char)}
    {hostPort : Option UInt16} {port : UInt16} (reads : Reads bracketed segments address hostPort port) :
    (segments.length < 3 ∧ address = bracketed) ∨
      ∃ bare host container, segments = [bare, host, container] ∧ address = if bare.isEmpty then none else some bare := by
  cases reads with
  | container => exact Or.inl ⟨Nat.lt_add_of_pos_right Nat.two_pos, rfl⟩
  | host => exact Or.inl ⟨Nat.lt_add_one 2, rfl⟩
  | address => exact Or.inr ⟨_, _, _, rfl, rfl⟩

/-- A host port that is left open is the one of the container with host networking, and none without. -/
theorem defaulted_eq_or (hostNetwork : Bool) (containerPort : UInt16) (hostPort : Option UInt16) :
    (match hostPort with
      | none => if hostNetwork then some containerPort else none
      | some given => some given) = hostPort.or (if hostNetwork then some containerPort else none) := by
  cases hostPort <;> rfl

theorem parse_eq_ok_iff {value : String} {hostNetwork : Bool} {mapping : PortMapping} :
    parse value hostNetwork = .ok mapping ↔ ∃ bracketed rest address hostPort containerPort,
      bracketed? (parts value.toList).1 = some (bracketed, rest) ∧
        Reads bracketed (Text.segments ':' rest) address hostPort containerPort ∧
        mapping = ⟨hostPort.or (if hostNetwork then some containerPort else none), some containerPort,
          PortMapping.normalizeProtocol (parts value.toList).2, address.map String.ofList⟩ := by
  unfold parse
  dsimp only
  constructor
  · intro parsed
    split at parsed
    · cases parsed
    · rename_i bracketed rest found
      generalize split : Text.segments ':' rest = segments at parsed
      suffices reads : ∃ address hostPort containerPort, Reads bracketed segments address hostPort containerPort ∧
          mapping = ⟨hostPort.or (if hostNetwork then some containerPort else none), some containerPort,
            PortMapping.normalizeProtocol (parts value.toList).2, address.map String.ofList⟩ by
        rcases reads with ⟨address, hostPort, containerPort, reads, made⟩
        exact ⟨bracketed, rest, address, hostPort, containerPort, found, split ▸ reads, made⟩
      split at parsed
      · rcases exists_ok_of_bind parsed with ⟨containerPort, number, finished⟩
        cases finished
        exact ⟨_, none, containerPort, .container number, rfl⟩
      · rcases exists_ok_of_bind parsed with ⟨hostPort, given, finished⟩
        rcases exists_ok_of_bind finished with ⟨containerPort, number, finished⟩
        cases finished
        exact ⟨_, hostPort, containerPort, .host given number, by rw [← defaulted_eq_or]; rfl⟩
      · rcases exists_ok_of_bind parsed with ⟨hostPort, given, finished⟩
        rcases exists_ok_of_bind finished with ⟨containerPort, number, finished⟩
        cases finished
        exact ⟨_, hostPort, containerPort, .address given number, by rw [← defaulted_eq_or]; rfl⟩
      · cases parsed
  · rintro ⟨bracketed, rest, address, hostPort, containerPort, found, reads, rfl⟩
    split
    · rename_i nothing
      cases found.symm.trans nothing
    · rename_i same
      cases found.symm.trans same
      generalize Text.segments ':' rest = segments at reads
      cases reads with
      | container number =>
          dsimp only
          rw [number]
          rfl
      | host given number =>
          dsimp only
          rw [given, number, ← defaulted_eq_or]
          rfl
      | address given number =>
          dsimp only
          rw [given, number, ← defaulted_eq_or]
          rfl

end PublishSpec

/-! ## Numerals and specifications -/

namespace PortMapping

open PublishSpec

/-- A text is read by what it is without blanks and without the protocol behind it. -/
theorem ofText_eq_ite (text : String) : ofText text =
    if Number.isNumeral (parts (Text.trim text.toList)).1 then
      (portNumber (parts (Text.trim text.toList)).1).map fun port =>
        { onHost port with protocol := normalizeProtocol (parts (Text.trim text.toList)).2 }
    else parse (String.ofList (Text.trim text.toList)) false := by
  unfold ofText parts
  dsimp only
  cases Text.cutLast '/' (Text.trim text.toList) <;> rfl

end PortMapping
end Fleet
