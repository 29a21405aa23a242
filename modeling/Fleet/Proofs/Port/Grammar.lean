import Fleet.Proofs.Port.Canonical

namespace Fleet

/-!
# The notation of publish specifications

A specification is written `[address:][host:]container[/protocol]`.  There is at most one address.  It stands in
brackets, or it is bare and is followed by both ports, of which that of the host may be left open.  The notation is said
here part by part, from how the parts are put together and not from how a text is taken apart.

Every text of the notation is accepted, with the address and the ports that it has.  The other way round there is one
exception.  Behind an address in brackets the parser goes on to look for a bare one, and if both are there it accepts the
text and keeps the second.
-/

namespace PublishSpec

/-! ## Ports -/

/-- A port as it is written: digits with a plus sign in front of them or without, and blanks around them. -/
def NamesPort (text : List Char) (port : UInt16) : Prop :=
  IsPort port ∧ ∃ digits, (Text.trim text = digits ∨ Text.trim text = '+' :: digits) ∧
    Number.isNumeral digits = true ∧ Nat.ofDigitChars 10 digits 0 = port.toNat

/-- A port that may be left open. -/
inductive NamesOptionalPort (text : List Char) : Option UInt16 → Prop
  | leftOpen (blank : text.all Text.isBlank = true) : NamesOptionalPort text none
  | given {port : UInt16} (names : NamesPort text port) : NamesOptionalPort text (some port)

variable {text spec : List Char} {port containerPort : UInt16} {hostPort : Option UInt16}

theorem namesPort_iff : NamesPort text port ↔ portNumber text = .ok port := by
  rw [portNumber_eq_ok_iff]
  constructor
  · rintro ⟨range, digits, written, numeral, value⟩
    refine ⟨port.toNat, Number.unsigned?_eq_some_iff.2 ⟨digits, written, ?_⟩, range, UInt16.ofNat_toNat.symm⟩
    rw [Number.natural?_eq_some_iff]
    exact ⟨numeral, value⟩
  · rintro ⟨n, reads, range, rfl⟩
    rcases Number.unsigned?_eq_some_iff.1 reads with ⟨digits, written, value⟩
    rcases Number.natural?_eq_some_iff.1 value with ⟨numeral, rfl⟩
    have small : (UInt16.ofNat (Nat.ofDigitChars 10 digits 0)).toNat = Nat.ofDigitChars 10 digits 0 := by
      rw [UInt16.toNat_ofNat']
      omega
    refine ⟨?_, digits, written, numeral, small.symm⟩
    unfold IsPort
    rw [small]
    exact range

/-- What is written of a port is not blank altogether. -/
theorem NamesPort.solid (names : NamesPort text port) : ¬ text.all Text.isBlank = true := by
  intro blank
  rcases names with ⟨_, digits, written, numeral, _⟩
  cases first : (Text.trim text).head? with
  | none =>
      rcases written with same | same
      · rw [← same, List.head?_eq_none_iff.1 first] at numeral
        cases numeral
      · rw [same] at first
        cases first
  | some c =>
      have inside : c ∈ text := (Text.infix_trim text).subset (List.mem_of_head? first)
      cases (Text.isBlank_head_trim first).symm.trans (List.all_eq_true.1 blank c inside)

theorem namesOptionalPort_iff : NamesOptionalPort text hostPort ↔ optionalPort text = .ok hostPort := by
  unfold optionalPort
  constructor
  · rintro (blank | names)
    · exact if_pos blank
    · rw [if_neg names.solid, namesPort_iff.1 names]
      rfl
  · intro read
    split at read
    · rename_i blank
      cases read
      exact .leftOpen blank
    · rcases exists_ok_of_map read with ⟨port, number, rfl⟩
      exact .given (namesPort_iff.2 number)

/-- No mark of the notation is taken for a part of a port. -/
theorem NamesPort.not_mem (names : NamesPort text port) {mark : Char} (solid : Text.isBlank mark = false)
    (noPlus : mark ≠ '+') (noDigit : mark.isDigit = false) : mark ∉ text := by
  intro member
  rcases portNumber_eq_ok_iff.1 (namesPort_iff.1 names) with ⟨n, reads, _⟩
  exact Number.not_mem_of_unsigned? reads noPlus noDigit (Text.mem_trim member solid)

theorem NamesOptionalPort.not_mem (names : NamesOptionalPort text hostPort) {mark : Char}
    (solid : Text.isBlank mark = false) (noPlus : mark ≠ '+') (noDigit : mark.isDigit = false) : mark ∉ text := by
  cases names with
  | leftOpen blank =>
      intro member
      cases solid.symm.trans (List.all_eq_true.1 blank mark member)
  | given names => exact names.not_mem solid noPlus noDigit

/-- The ports at the end of a specification, with or without that of the host. -/
inductive NamesPorts : List Char → Option UInt16 → UInt16 → Prop
  | container {text : List Char} {port : UInt16} (names : NamesPort text port) : NamesPorts text none port
  | host {host text : List Char} {hostPort : Option UInt16} {port : UInt16} (given : NamesOptionalPort host hostPort)
      (names : NamesPort text port) : NamesPorts (host ++ ':' :: text) hostPort port

/-! ## Addresses -/

/-- A specification without its protocol, and what it names: an address, if any, and the ports. -/
inductive Spells : List Char → Option (List Char) → Option UInt16 → UInt16 → Prop
  | ports {text : List Char} {hostPort : Option UInt16} {port : UInt16} (names : NamesPorts text hostPort port) :
      Spells text none hostPort port
  | bracketed {address text : List Char} {hostPort : Option UInt16} {port : UInt16}
      (closed : ¬ [']', ':'] <:+: address) (names : NamesPorts text hostPort port) :
      Spells ('[' :: (address ++ ([']', ':'] ++ text))) (some address) hostPort port
  /-- The segment of a bare address may be empty, and then names none. -/
  | bare {address host text : List Char} {hostPort : Option UInt16} {port : UInt16} (free : ':' ∉ address)
      (unbracketed : address.head? ≠ some '[') (given : NamesOptionalPort host hostPort) (names : NamesPort text port) :
      Spells (address ++ ':' :: (host ++ ':' :: text)) (if address.isEmpty then none else some address) hostPort port

/-- No bracket is taken for a part of a port, or for the colon between two of them. -/
theorem NamesPorts.head?_ne (names : NamesPorts text hostPort port) : text.head? ≠ some '[' := by
  intro first
  have inside := List.mem_of_head? first
  cases names with
  | container names => exact names.not_mem (by decide) (by decide) (by decide) inside
  | host given names =>
      rcases List.mem_append.1 inside with before | behind
      · exact given.not_mem (by decide) (by decide) (by decide) before
      · rcases List.mem_cons.1 behind with colon | later
        · cases colon
        · exact names.not_mem (by decide) (by decide) (by decide) later

variable {address rest : List Char} {found : Option (List Char)}

theorem bracketed?_eq_some_none_iff : bracketed? spec = some (none, rest) ↔ spec.head? ≠ some '[' ∧ rest = spec := by
  unfold bracketed?
  split
  · simp
  · rename_i plain
    have unbracketed : spec.head? ≠ some '[' := by
      intro first
      rcases List.head?_eq_some_iff.1 first with ⟨inside, rfl⟩
      exact plain inside rfl
    rw [Option.some.injEq, Prod.mk.injEq, eq_comm (a := spec)]
    exact ⟨fun same => ⟨unbracketed, same.2⟩, fun same => ⟨rfl, same.2⟩⟩

/-- Brackets end where they are first followed by a colon. -/
theorem bracketed?_eq_some_iff_closed : bracketed? spec = some (some address, rest) ↔
    spec = '[' :: (address ++ ([']', ':'] ++ rest)) ∧ ¬ [']', ':'] <:+: address := by
  rw [bracketed?_eq_some_some_iff]
  have closed : [']', ':'] <:+: address ++ [']'] ↔ [']', ':'] <:+: address := by
    rw [List.infix_concat_iff]
    refine or_iff_right fun last => ?_
    have same := last.getLast (List.cons_ne_nil _ _)
    simp at same
  constructor
  · rintro ⟨inside, rfl, cut⟩
    rcases (Text.cutAround_eq_some_iff (List.cons_ne_nil _ _)).1 cut with ⟨rfl, first⟩
    exact ⟨rfl, fun inside => first (closed.2 inside)⟩
  · rintro ⟨rfl, first⟩
    exact ⟨_, rfl, (Text.cutAround_eq_some_iff (List.cons_ne_nil _ _)).2 ⟨rfl, fun inside => first (closed.1 inside)⟩⟩

/-! ## What the parser makes of it -/

/-- Ports are one segment or two. -/
theorem reads_of_namesPorts (names : NamesPorts text hostPort port) (bracketed : Option (List Char)) :
    Reads bracketed (Text.segments ':' text) bracketed hostPort port ∧ (Text.segments ':' text).length < 3 := by
  cases names with
  | container names =>
      rw [Text.segments_of_not_mem (names.not_mem (by decide) (by decide) (by decide))]
      exact ⟨.container (namesPort_iff.1 names), Nat.lt_add_of_pos_right Nat.two_pos⟩
  | host given names =>
      rw [Text.segments_append (given.not_mem (by decide) (by decide) (by decide)),
        Text.segments_of_not_mem (names.not_mem (by decide) (by decide) (by decide))]
      exact ⟨.host (namesOptionalPort_iff.1 given) (namesPort_iff.1 names), Nat.lt_add_one 2⟩

theorem namesPorts_of_reads {bracketed : Option (List Char)}
    (reads : Reads bracketed (Text.segments ':' text) found hostPort port)
    (short : (Text.segments ':' text).length < 3) : NamesPorts text hostPort port ∧ found = bracketed := by
  generalize split : Text.segments ':' text = segments at reads short
  have joined := (Text.segments_eq_iff.1 split).2.2
  cases reads with
  | container number =>
      subst joined
      simpa using NamesPorts.container (namesPort_iff.2 number)
  | host given number =>
      subst joined
      simpa using NamesPorts.host (namesOptionalPort_iff.2 given) (namesPort_iff.2 number)
  | address => exact absurd short (Nat.lt_irrefl 3)

/-- A specification is spelled as it is read, but that there is no bare address behind one in brackets. -/
theorem spells_iff : Spells spec found hostPort port ↔ ∃ bracketed rest, bracketed? spec = some (bracketed, rest) ∧
    Reads bracketed (Text.segments ':' rest) found hostPort port ∧
      (bracketed = none ∨ (Text.segments ':' rest).length < 3) := by
  constructor
  · intro spells
    cases spells with
    | ports names =>
        refine ⟨none, spec, bracketed?_eq_some_none_iff.2 ⟨names.head?_ne, rfl⟩, ?_, Or.inl rfl⟩
        exact (reads_of_namesPorts names none).1
    | @bracketed address text _ _ closed names =>
        rcases reads_of_namesPorts names (some address) with ⟨reads, short⟩
        exact ⟨some address, text, bracketed?_eq_some_iff_closed.2 ⟨rfl, closed⟩, reads, Or.inr short⟩
    | bare free unbracketed given names =>
        refine ⟨none, _, bracketed?_eq_some_none_iff.2 ⟨?_, rfl⟩, ?_, Or.inl rfl⟩
        · rw [List.head?_append]
          intro first
          rcases Option.or_eq_some_iff.1 first with atStart | ⟨_, colon⟩
          · exact unbracketed atStart
          · cases colon
        · rw [Text.segments_append free, Text.segments_append (given.not_mem (by decide) (by decide) (by decide)),
            Text.segments_of_not_mem (names.not_mem (by decide) (by decide) (by decide))]
          exact .address (namesOptionalPort_iff.1 given) (namesPort_iff.1 names)
  · rintro ⟨bracketed, rest, start, reads, single⟩
    by_cases short : (Text.segments ':' rest).length < 3
    · rcases namesPorts_of_reads reads short with ⟨names, rfl⟩
      cases found with
      | none =>
          rcases bracketed?_eq_some_none_iff.1 start with ⟨_, rfl⟩
          exact .ports names
      | some address =>
          rcases bracketed?_eq_some_iff_closed.1 start with ⟨rfl, closed⟩
          exact .bracketed closed names
    · obtain rfl := single.resolve_right short
      rcases bracketed?_eq_some_none_iff.1 start with ⟨unbracketed, rfl⟩
      generalize split : Text.segments ':' rest = segments at reads short
      rcases Text.segments_eq_iff.1 split with ⟨_, free, rfl⟩
      cases reads with
      | container | host => exact absurd (by simp) short
      | @address address host text hostPort port given number =>
          have notAtStart : address.head? ≠ some '[' := by
            intro first
            rcases List.head?_eq_some_iff.1 first with ⟨inside, rfl⟩
            exact unbracketed rfl
          have spelled := Spells.bare (free address List.mem_cons_self) notAtStart (namesOptionalPort_iff.2 given)
            (namesPort_iff.2 number)
          simpa using spelled

/-! ## Whole specifications -/

/-- A text that may end with a protocol behind a slash: what stands in front of it, and the protocol. -/
inductive Suffixed : List Char → List Char → Option String → Prop
  | plain {text : List Char} (free : '/' ∉ text) : Suffixed text text none
  | protocol {spec protocol : List Char} (free : '/' ∉ protocol) :
      Suffixed (spec ++ '/' :: protocol) spec (some (String.ofList protocol))

theorem parts_eq_iff {protocol : Option String} : parts text = (spec, protocol) ↔ Suffixed text spec protocol := by
  unfold parts
  constructor
  · intro cut
    split at cut
    · rename_i found
      cases cut
      rcases Text.cutLast_eq_some_iff.1 found with ⟨rfl, free⟩
      exact .protocol free
    · rename_i nothing
      cases cut
      exact .plain (Text.cutLast_eq_none_iff.1 nothing)
  · rintro (free | free)
    · rw [Text.cutLast_eq_none_iff.2 free]
    · rw [Text.cutLast_append '/' spec free]

/-- A text is a specification of a mapping: it has the address and the ports of the mapping, and nothing else in front of
its protocol.  With host networking a host port that is left open is that of the container. -/
def Denotes (value : String) (hostNetwork : Bool) (mapping : PortMapping) : Prop :=
  ∃ spec protocol address hostPort containerPort, Suffixed value.toList spec protocol ∧
    Spells spec address hostPort containerPort ∧
      mapping = ⟨hostPort.or (if hostNetwork then some containerPort else none), some containerPort,
        PortMapping.normalizeProtocol protocol, address.map String.ofList⟩

/-- A text has a segment for a bare address behind an address in brackets. -/
def SecondAddress (value : String) : Prop :=
  ∃ protocol address second host container, ':' ∉ second ∧ ':' ∉ host ∧ ':' ∉ container ∧ ¬ [']', ':'] <:+: address ∧
    Suffixed value.toList
      ('[' :: (address ++ ([']', ':'] ++ (second ++ ':' :: (host ++ ':' :: container))))) protocol

variable {value : String} {hostNetwork : Bool} {mapping : PortMapping}

theorem denotes_iff_reads : Denotes value hostNetwork mapping ↔ ∃ bracketed rest address hostPort containerPort,
    bracketed? (parts value.toList).1 = some (bracketed, rest) ∧
      Reads bracketed (Text.segments ':' rest) address hostPort containerPort ∧
      (bracketed = none ∨ (Text.segments ':' rest).length < 3) ∧
      mapping = ⟨hostPort.or (if hostNetwork then some containerPort else none), some containerPort,
        PortMapping.normalizeProtocol (parts value.toList).2, address.map String.ofList⟩ := by
  constructor
  · rintro ⟨spec, protocol, address, hostPort, containerPort, suffixed, spells, rfl⟩
    rcases spells_iff.1 spells with ⟨bracketed, rest, start, reads, single⟩
    rw [parts_eq_iff.2 suffixed]
    exact ⟨bracketed, rest, address, hostPort, containerPort, start, reads, single, rfl⟩
  · rintro ⟨bracketed, rest, address, hostPort, containerPort, start, reads, single, rfl⟩
    exact ⟨_, _, address, hostPort, containerPort, parts_eq_iff.1 rfl,
      spells_iff.2 ⟨bracketed, rest, start, reads, single⟩, rfl⟩

theorem secondAddress_iff : SecondAddress value ↔ ∃ address rest,
    bracketed? (parts value.toList).1 = some (some address, rest) ∧ (Text.segments ':' rest).length = 3 := by
  constructor
  · rintro ⟨protocol, address, second, host, container, noSecond, noHost, noContainer, closed, suffixed⟩
    rw [parts_eq_iff.2 suffixed]
    refine ⟨address, _, bracketed?_eq_some_iff_closed.2 ⟨rfl, closed⟩, ?_⟩
    rw [Text.segments_append noSecond, Text.segments_append noHost, Text.segments_of_not_mem noContainer]
    rfl
  · rintro ⟨address, rest, start, three⟩
    rcases bracketed?_eq_some_iff_closed.1 start with ⟨spelled, closed⟩
    rcases List.length_eq_three.1 three with ⟨second, host, container, split⟩
    rcases Text.segments_eq_iff.1 split with ⟨_, free, rfl⟩
    have suffixed : Suffixed value.toList (parts value.toList).1 (parts value.toList).2 := parts_eq_iff.1 rfl
    rw [spelled] at suffixed
    refine ⟨(parts value.toList).2, address, second, host, container, free _ ?_, free _ ?_, free _ ?_, closed, ?_⟩
    · exact .head _
    · exact .tail _ (.head _)
    · exact .tail _ (.tail _ (.head _))
    · simpa using suffixed

theorem parse_of_denotes (denotes : Denotes value hostNetwork mapping) : parse value hostNetwork = .ok mapping := by
  rcases denotes_iff_reads.1 denotes with ⟨bracketed, rest, address, hostPort, containerPort, start, reads, _, made⟩
  exact parse_eq_ok_iff.2 ⟨bracketed, rest, address, hostPort, containerPort, start, reads, made⟩

theorem not_secondAddress_of_denotes (denotes : Denotes value hostNetwork mapping) : ¬ SecondAddress value := by
  intro second
  rcases denotes_iff_reads.1 denotes with ⟨bracketed, rest, _, _, _, start, _, single, _⟩
  rcases secondAddress_iff.1 second with ⟨address, behind, same, three⟩
  cases start.symm.trans same
  rcases single with plain | short
  · cases plain
  · exact absurd three (Nat.ne_of_lt short)

/-- The texts of the notation are those that are accepted and have no bare address behind one in brackets, and what is
read of them is what they say. -/
theorem denotes_iff_parse :
    Denotes value hostNetwork mapping ↔ parse value hostNetwork = .ok mapping ∧ ¬ SecondAddress value := by
  constructor
  · exact fun denotes => ⟨parse_of_denotes denotes, not_secondAddress_of_denotes denotes⟩
  · rintro ⟨parsed, one⟩
    rcases parse_eq_ok_iff.1 parsed with ⟨bracketed, rest, address, hostPort, containerPort, start, reads, made⟩
    refine denotes_iff_reads.2 ⟨bracketed, rest, address, hostPort, containerPort, start, reads, ?_, made⟩
    rcases reads.address_eq with ⟨short, _⟩ | ⟨bare, host, container, split, _⟩
    · exact Or.inr short
    · cases bracketed with
      | none => exact Or.inl rfl
      | some inBrackets => exact absurd (secondAddress_iff.2 ⟨inBrackets, rest, start, by rw [split]; rfl⟩) one

/-- Two addresses are no specification, but they are accepted, and the one in brackets is lost. -/
theorem address_in_brackets_lost :
    let value := "[::1]:10.0.0.5:8080:80"
    SecondAddress value ∧ (∀ hostNetwork mapping, ¬ Denotes value hostNetwork mapping) ∧
      parse value false = .ok ⟨some 8080, some 80, "tcp", some "10.0.0.5"⟩ := by
  intro value
  have whole : value.toList = '[' :: ("::1".toList ++ ([']', ':'] ++
      ("10.0.0.5".toList ++ ':' :: ("8080".toList ++ ':' :: "80".toList)))) := by decide +kernel +zetaReduce
  have second : SecondAddress value := by
    refine ⟨none, "::1".toList, "10.0.0.5".toList, "8080".toList, "80".toList, ?_, ?_, ?_, ?_, ?_⟩
    iterate 4 decide
    rw [whole]
    exact .plain (by decide)
  exact ⟨second, fun _ _ denotes => not_secondAddress_of_denotes denotes second, by decide +kernel +zetaReduce⟩

end PublishSpec
end Fleet
