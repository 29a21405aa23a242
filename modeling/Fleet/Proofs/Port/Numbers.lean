import Fleet.Proofs.Codec.Reading
import Fleet.Proofs.Port.Objects
import Fleet.Report.Entry

namespace Fleet

/-!
# Numbers in three places

A port number may be an entry of its own, a field of an entry, or the target port of a route, and each place has its own
reader.  The readers of entries and of fields differ in one kind of text only: behind a plus sign, a number is no numeral
to the first, which takes it for a specification and leaves the host port open.  The reader of routes differs in one
kind of number only: it cuts off the fraction of a number, where the others refuse it.
-/

namespace LooseNumber

/-- A text that is a port number with a plus sign in front of it. -/
def Signed (number : LooseNumber) : Prop :=
  ∃ text digits n, number = .text text ∧ Text.trim text.toList = '+' :: digits ∧
    Number.natural? 10 digits = some n ∧ 1 ≤ n ∧ n ≤ 65535

/-- A number with a fraction whose integer part is a port number. -/
def Fractional (number : LooseNumber) : Prop :=
  ∃ x, number = .real x ∧ x.isWhole = false ∧ 1 ≤ integerPart x ∧ integerPart x ≤ 65535

/-- Numbers and texts, and nothing else, are read as numbers. -/
theorem exists_decode_iff {value : Json} :
    (∃ number, decode value = .ok number) ↔ (∃ n, value = .number n) ∨ ∃ text, value = .string text := by
  constructor
  · rintro ⟨number, read⟩
    cases value with
    | number n => exact Or.inl ⟨n, rfl⟩
    | string text => exact Or.inr ⟨text, rfl⟩
    | _ => cases read
  · rintro (⟨n, rfl⟩ | ⟨text, rfl⟩)
    · cases n <;> exact ⟨_, rfl⟩
    · exact ⟨_, rfl⟩

theorem not_signed_of_number {n : Json.Number} {number : LooseNumber} (read : decode (.number n) = .ok number) :
    ¬ number.Signed := by
  rintro ⟨text, _, _, rfl, _⟩
  cases n with
  | real => cases read
  | whole m =>
      have same := Except.ok.inj read
      split at same <;> cases same

/-! ## The target port of a route -/

theorem routePort_whole (n : Int) : Report.routePort (.whole n) = (PublishSpec.portInRange n).toOption := by
  dsimp only [Report.routePort, PublishSpec.portInRange]
  split <;> rfl

/-- A fraction is cut off, whatever the number. -/
theorem routePort_real (x : Binary64) :
    Report.routePort (.real x) = (PublishSpec.portInRange (integerPart x)).toOption :=
  routePort_whole (integerPart x)

/-- Texts are read for routes as they are for ports, although a minus sign is refused for another reason. -/
theorem routePort_text (text : String) :
    Report.routePort (.text text) = (PublishSpec.portNumber text.toList).toOption := by
  refine Option.ext fun port => ?_
  rw [toOption_eq_some_iff, PublishSpec.portNumber_eq_ok_iff]
  dsimp only [Report.routePort]
  cases Number.unsigned? 10 (Text.trim text.toList) with
  | none => exact iff_of_false nofun fun ⟨_, absent, _⟩ => (nomatch absent)
  | some n =>
      change Report.routePort (.whole (Int.ofNat n)) = some port ↔ _
      rw [routePort_whole, toOption_eq_some_iff, PublishSpec.portInRange_ofNat_eq_ok_iff]
      constructor
      · exact fun read => ⟨n, rfl, read⟩
      · rintro ⟨_, same, read⟩
        cases same
        exact read

/-- The target port of a route is the port that the number is elsewhere, unless a fraction is cut off for it. -/
theorem routePort_eq_toPort_iff (number : LooseNumber) :
    Report.routePort number = number.toPort.toOption ↔ ¬ number.Fractional := by
  cases number with
  | whole n =>
      refine iff_of_true (routePort_whole n) ?_
      rintro ⟨x, same, _⟩
      cases same
  | text text =>
      refine iff_of_true (routePort_text text) ?_
      rintro ⟨x, same, _⟩
      cases same
  | real x =>
      rw [routePort_real, toPort]
      cases whole : x.isWhole with
      | true =>
          refine iff_of_true rfl ?_
          rintro ⟨_, same, fraction, _⟩
          cases same
          cases whole.symm.trans fraction
      | false =>
          change (PublishSpec.portInRange (integerPart x)).toOption = none ↔ _
          unfold PublishSpec.portInRange
          split
          · rename_i range
            exact iff_of_false (Option.some_ne_none _) fun plain => plain ⟨x, rfl, whole, range⟩
          · rename_i outside
            refine iff_of_true rfl ?_
            rintro ⟨_, same, _, range⟩
            cases same
            exact outside range

end LooseNumber

namespace PortMapping

open PublishSpec

variable {text : String} {digits : List Char} {n : Nat}

/-! ## Texts as entries -/

/-- Without a sign, a port number is published on the host as well. -/
theorem ofText_of_plain (plain : Number.natural? 10 (Text.trim text.toList) = some n) (range : 1 ≤ n ∧ n ≤ 65535) :
    ofText text = .ok (onHost (UInt16.ofNat n)) := by
  have unsigned := Number.unsigned?_eq_some_iff.2 ⟨_, Or.inl rfl, plain⟩
  have bare := parts_of_not_mem (Number.not_mem_of_unsigned? unsigned (by decide) (by decide))
  have number : portNumber (Text.trim text.toList) = .ok (UInt16.ofNat n) :=
    portNumber_trim_eq_ok_iff.2 (portNumber_eq_ok_iff.2 ⟨n, unsigned, range, rfl⟩)
  rw [ofText_eq_ite, bare, if_pos (Number.isNumeral_of_natural? plain), number]
  rfl

/-- Behind a plus sign, a port number is a specification of one segment. -/
theorem ofText_of_signed (signed : Text.trim text.toList = '+' :: digits)
    (reads : Number.natural? 10 digits = some n) (range : 1 ≤ n ∧ n ≤ 65535) :
    ofText text = .ok ⟨none, some (UInt16.ofNat n), defaultProtocol, none⟩ := by
  have unsigned := Number.unsigned?_eq_some_iff.2 ⟨digits, Or.inr signed, reads⟩
  have bare := parts_of_not_mem (Number.not_mem_of_unsigned? unsigned (by decide) (by decide))
  have single : Text.segments ':' (Text.trim text.toList) = [Text.trim text.toList] :=
    Text.segments_of_not_mem (Number.not_mem_of_unsigned? unsigned (by decide) (by decide))
  have number : portNumber (Text.trim text.toList) = .ok (UInt16.ofNat n) :=
    portNumber_trim_eq_ok_iff.2 (portNumber_eq_ok_iff.2 ⟨n, unsigned, range, rfl⟩)
  have noNumeral : ¬ Number.isNumeral (Text.trim text.toList) = true := by
    rw [signed]
    exact nofun
  rw [ofText_eq_ite, bare, if_neg noNumeral, parse_eq_ok_iff, String.toList_ofList, bare]
  refine ⟨none, Text.trim text.toList, none, none, UInt16.ofNat n, ?_, ?_, rfl⟩
  · rw [signed]
    rfl
  · rw [single]
    exact .container number

/-! ## Entries and fields -/

variable {value : Json} {number : LooseNumber}

theorem normalize_number {n : Json.Number} (read : LooseNumber.decode (.number n) = .ok number) :
    normalize (.number n) = number.toPort.map onHost := by
  unfold normalize
  simp only [read]

/-- What a number is as a field it is as an entry, unless it is a text with a sign. -/
theorem normalize_of_toPort_iff (read : LooseNumber.decode value = .ok number) :
    (∀ mapping, number.toPort.map onHost = .ok mapping → normalize value = .ok mapping) ↔ ¬ number.Signed := by
  cases value with
  | null | bool | array | object => cases read
  | number n =>
      exact iff_of_true (fun _ field => (normalize_number read).trans field) (LooseNumber.not_signed_of_number read)
  | string text =>
      cases read
      constructor
      · rintro alike ⟨text, digits, n, same, signed, reads, range⟩
        cases same
        have unsigned := Number.unsigned?_eq_some_iff.2 ⟨digits, Or.inr signed, reads⟩
        have port : (LooseNumber.text text).toPort = .ok (UInt16.ofNat n) :=
          portNumber_eq_ok_iff.2 ⟨n, unsigned, range, rfl⟩
        have bare := alike (onHost (UInt16.ofNat n)) (congrArg (Except.map onHost) port)
        cases (ofText_of_signed signed reads range).symm.trans bare
      · intro plain mapping field
        rcases exists_ok_of_map field with ⟨port, read, rfl⟩
        rcases portNumber_eq_ok_iff.1 read with ⟨n, unsigned, range, rfl⟩
        rcases Number.unsigned?_eq_some_iff.1 unsigned with ⟨digits, same | signed, reads⟩
        · exact ofText_of_plain (same ▸ reads) range
        · exact absurd ⟨text, digits, n, rfl, signed, reads, range⟩ plain

end PortMapping

namespace Report

open Record

variable {value : Json} {number : LooseNumber} {entry : List (String × Json)} {route : Route}

/-! ## Routes -/

/-- Whatever else is said of a route, its target port is read by itself. -/
theorem targetPort_of_readRoute (read : LooseNumber.decode value = .ok number)
    (accepted : readRoute (.object entry) = .ok route)
    (given : ("targetPort", value) ∈ entry ∨ ("target_port", value) ∈ entry) :
    route.targetPort = routePort number := by
  have taken : routeRecord.take (ofFields entry) = .ok route := by
    unfold readRoute at accepted
    split at accepted
    · cases accepted
    · rename_i decoded
      split at accepted <;> cases accepted
      exact ok_of_mapError decoded
  rcases exists_ok_of_both taken with ⟨withPort, ssl, first, _, rfl⟩
  rcases exists_ok_of_both first with ⟨named, targetPort, others, port, rfl⟩
  rcases exists_ok_of_both others with ⟨hosted, targetService, hostRead, _, rfl⟩
  rcases exists_ok_of_map hostRead with ⟨host, _, rfl⟩
  have shown : value ∈ ((ofFields entry).found ⟨"targetPort", ["target_port"]⟩).map Prod.snd := by
    rw [values_found_ofFields]
    rcases given with own | other
    · exact List.mem_filterMap.2 ⟨_, own, rfl⟩
    · exact List.mem_filterMap.2 ⟨_, other, rfl⟩
  have present : value ≠ .null := by
    rintro rfl
    cases read
  rcases decode_of_take_may shown present port with ⟨result, decoded, rfl⟩
  cases read.symm.trans decoded
  rfl

/-- A route that names its host is accepted with every number for its target port. -/
theorem exists_readRoute (read : LooseNumber.decode value = .ok number) {host target : String}
    (named : Text.trimmed host ≠ "")
    (order : entry.Perm [("host", .string host), ("targetService", .string target), ("targetPort", value)]) :
    ∃ route, readRoute (.object entry) = .ok route := by
  have once : ["host", "targetService", "targetPort"].Nodup := by decide
  have keys : ["host", "targetService", "targetPort"] ⊆ routeRecord.slots.map Slot.name := by decide +kernel
  have shows := shows_of_perm (by decide +kernel : Separate routeRecord.slots) order once keys
  have hosts : ((ofFields entry).found ⟨"host", []⟩).map Prod.snd = [.string host] :=
    (shows _ (.head _)).trans (valuesUnder_eq_singleton once (by simp))
  have targets : ((ofFields entry).found ⟨"targetService", ["target_service"]⟩).map Prod.snd = [.string target] :=
    (shows _ (.tail _ (.head _))).trans (valuesUnder_eq_singleton once (by simp))
  have ports : ((ofFields entry).found ⟨"targetPort", ["target_port"]⟩).map Prod.snd = (some value).toList :=
    (shows _ (.tail _ (.tail _ (.head _)))).trans (valuesUnder_eq_singleton once (by simp))
  have encrypted : ((ofFields entry).found ⟨"ssl", []⟩).map Prod.snd = (none : Option Json).toList :=
    (shows _ (.tail _ (.tail _ (.tail _ (.head _))))).trans (valuesUnder_eq_nil (by simp))
  have taken : routeRecord.take (ofFields entry) = .ok (Report.route host target (some number) none) :=
    take_seq (take_seq (take_seq (take_map Report.route (take_need hosts rfl)) (take_need targets rfl))
      (take_may ports (fun _ refused => nomatch refused) (congrArg (Except.map some) read)))
      (take_may encrypted (fun _ refused => nomatch refused) rfl)
  have decoded : routeRecord.decode (.object entry) = .ok (Report.route host target (some number) none) :=
    congrArg (Except.mapError Prod.snd) taken
  have solid : ¬ (Report.route host target (some number) none).host.isEmpty = true :=
    fun empty => named (String.isEmpty_iff.1 empty)
  unfold readRoute
  rw [decoded]
  exact ⟨_, if_neg solid⟩

end Report

namespace PortMapping

/-! ## The three readers -/

/-- A number or text is accepted as an entry if it is accepted for both ports of an object, and for the same mapping,
exactly if it is no text with a sign.  A number is accepted or refused alike in both places.  A route has the port of the
object, or none if there is none, exactly if no fraction was cut off; and routes with every number are accepted. -/
theorem numbers_alike_iff {value : Json} (loose : (∃ n, value = .number n) ∨ ∃ text, value = .string text)
    {fields : List (String × Json)} (order : fields.Perm [("hostPort", value), ("containerPort", value)]) :
    ∃ number, LooseNumber.decode value = .ok number ∧
      ((∀ mapping, normalize (.object fields) = .ok mapping → normalize value = .ok mapping) ↔ ¬ number.Signed) ∧
      ((∃ n, value = .number n) → normalize value = normalize (.object fields)) ∧
      (∀ entry route, Report.readRoute (.object entry) = .ok route →
        ("targetPort", value) ∈ entry ∨ ("target_port", value) ∈ entry →
          (route.targetPort = (normalize (.object fields)).toOption.bind hostPort ↔ ¬ number.Fractional)) ∧
      ∀ host target entry, Text.trimmed host ≠ "" →
        entry.Perm [("host", .string host), ("targetService", .string target), ("targetPort", value)] →
          ∃ route, Report.readRoute (.object entry) = .ok route := by
  rcases LooseNumber.exists_decode_iff.2 loose with ⟨number, read⟩
  have object : normalize (.object fields) = number.toPort.map onHost := normalize_both read order
  have port : (normalize (.object fields)).toOption.bind hostPort = number.toPort.toOption := by
    rw [object]
    cases number.toPort <;> rfl
  refine ⟨number, read, ?_, ?_, fun entry route accepted given => ?_, fun host target entry named route => ?_⟩
  · rw [object]
    exact normalize_of_toPort_iff read
  · rintro ⟨n, rfl⟩
    exact (normalize_number read).trans object.symm
  · rw [port, Report.targetPort_of_readRoute read accepted given]
    exact LooseNumber.routePort_eq_toPort_iff number
  · exact Report.exists_readRoute read named route

/-- Digits with blanks around them and zeros in front, in all three places. -/
theorem numbers_alike_iff_padded :
    let value := Json.string " 0080 "
    let fields := [("containerPort", value), ("hostPort", value)]
    let entry := [("target_port", value), ("host", .string "a.test"), ("targetService", .string "10.0.0.5")]
    ∃ route, normalize (.object fields) = .ok (onHost 80) ∧ normalize value = .ok (onHost 80) ∧
      Report.readRoute (.object entry) = .ok route ∧ route.targetPort = some 80 := by
  intro value fields entry
  have object : normalize (.object fields) = .ok (onHost 80) := by decide +kernel +zetaReduce
  have accepted : Report.readRoute (.object entry) = .ok ⟨"a.test", "10.0.0.5", some 80, false⟩ := by
    decide +kernel +zetaReduce
  rcases numbers_alike_iff (Or.inr ⟨_, rfl⟩) (List.Perm.swap _ _ _ : fields.Perm _) with
    ⟨number, read, alike, _, routes, _⟩
  cases read
  have plain : ¬ (LooseNumber.text " 0080 ").Signed := by
    rintro ⟨text, digits, n, same, signed, _⟩
    cases same
    cases signed
  have whole : ¬ (LooseNumber.text " 0080 ").Fractional := by
    rintro ⟨x, same, _⟩
    cases same
  refine ⟨_, object, alike.2 plain _ object, accepted, ?_⟩
  rw [(routes entry _ accepted (Or.inr (.head _))).2 whole, object]
  rfl

/-- A port with a fraction is refused as an entry and as a field and gives a route without the fraction.  A port with a
sign is published as an entry without a port of the host. -/
theorem fraction_cut_and_sign_lost :
    let fraction := Json.number (.real ⟨0x4054200000000000, by decide⟩)
    let signed := Json.string "+8080"
    normalize fraction = .error (.notNumeric "80.5") ∧
      normalize (.object [("hostPort", fraction), ("containerPort", fraction)]) = .error (.notNumeric "80.5") ∧
      Report.readRoute (.object [("host", .string "a.test"), ("targetService", .string "10.0.0.5"),
        ("targetPort", fraction)]) = .ok ⟨"a.test", "10.0.0.5", some 80, false⟩ ∧
      normalize (.object [("hostPort", signed), ("containerPort", signed)]) = .ok (onHost 8080) ∧
      normalize signed = .ok ⟨none, some 8080, "tcp", none⟩ := by
  intro fraction signed
  refine ⟨?_, ?_, ?_, ?_, ?_⟩ <;> decide +kernel +zetaReduce

end PortMapping

end Fleet
