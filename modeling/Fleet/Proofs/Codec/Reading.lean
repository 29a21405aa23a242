import Fleet.Codec.Record
import Fleet.Proofs.Keyed
import Fleet.Proofs.Results

namespace Fleet

/-!
# What values are like that were read

Documents do not show every value that the types allow, and what is read from one is of those that they show.
`Codec.Gives` says that all that is read has a property, whatever the document.  A record is built from its fields by
one function.  `Record.Gives` passes through the fields one after the other, with what is known of each, and what is
left is a statement about the function.
-/

variable {α β σ : Type}

/-! ## Codecs -/

namespace Codec

/-- Everything that is read by a codec has a property. -/
def Gives (codec : Codec α) (Holds : α → Prop) : Prop :=
  ∀ document value, codec.decode document = .ok value → Holds value

variable {codec : Codec α} {Holds : α → Prop}

theorem Gives.list (gives : codec.Gives Holds) : codec.list.Gives fun items => ∀ item ∈ items, Holds item := by
  intro document items decoded item member
  cases document with
  | array given =>
      rcases exists_ok_of_mem_mapM decoded member with ⟨document, _, read⟩
      exact gives document item read
  | _ => cases decoded

theorem Gives.keyed (gives : codec.Gives Holds) : codec.keyed.Gives fun map => ∀ value ∈ map.values, Holds value := by
  intro document map decoded value member
  cases document with
  | object fields =>
      rcases exists_ok_of_bind decoded with ⟨entries, read, collected⟩
      cases collected
      rcases List.mem_map.1 (Keyed.mem_of_mem_values_ofList member) with ⟨entry, entryMember, rfl⟩
      rcases exists_ok_of_mem_mapM read entryMember with ⟨field, _, fieldRead⟩
      rcases exists_ok_of_bind fieldRead with ⟨value, found, same⟩
      cases same
      exact gives field.2 value found
  | _ => cases decoded

theorem Gives.nullable (gives : codec.Gives Holds) :
    codec.nullable.Gives fun found => ∀ value, found = some value → Holds value := by
  intro document found decoded value present
  subst present
  cases document with
  | null => cases decoded
  | bool | number | string | array | object =>
      rcases exists_ok_of_map decoded with ⟨result, read, same⟩
      cases same
      exact gives _ _ read

/-- A document that may be absent is never `null` when it is there. -/
theorem gives_nullable_document : document.nullable.Gives fun found => found ≠ some .null := by
  intro given found decoded same
  subst same
  cases given with
  | null => cases decoded
  | _ => cases decoded

end Codec

/-! ## Records -/

namespace Record

/-- Everything that is read by a record has a property. -/
def Gives (record : Record σ α) (Holds : α → Prop) : Prop :=
  ∀ given value, record.take given = .ok value → Holds value

variable {Known : α → Prop} {Holds : β → Prop}

theorem Gives.of_take {record : Record σ α} (gives : record.Gives Known) {given : Given} {value : α}
    (taken : record.take given = .ok value) : Known value :=
  gives given value taken

/-- What is known of a field may be used of the argument that it gives. -/
theorem gives_map_of {record : Record σ α} {f : α → β} (known : record.Gives Known)
    (holds : ∀ value, Known value → Holds (f value)) : (f <$> record).Gives Holds := by
  intro given value taken
  rcases exists_ok_of_map taken with ⟨argument, result, rfl⟩
  exact holds argument (known given argument result)

theorem gives_map {record : Record σ α} {f : α → β} (holds : ∀ value, Holds (f value)) :
    (f <$> record).Gives Holds :=
  gives_map_of (fun _ _ _ => trivial) fun value (_ : True) => holds value

theorem exists_ok_of_both {first : Except Misfit (α → β)} {second : Except Misfit α} {value : β}
    (combined : Misfit.both first second = .ok value) :
    ∃ f argument, first = .ok f ∧ second = .ok argument ∧ value = f argument := by
  cases first <;> cases second <;> cases combined
  exact ⟨_, _, rfl, rfl, rfl⟩

theorem gives_seq_of {first : Record σ (α → β)} {second : Record σ α} (known : second.Gives Known)
    (gives : first.Gives fun f => ∀ value, Known value → Holds (f value)) : (first <*> second).Gives Holds := by
  intro given value taken
  rcases exists_ok_of_both taken with ⟨f, argument, function, read, rfl⟩
  exact gives given f function argument (known given argument read)

/-- What a field gives is an argument, so it is enough that the function gives what is wanted for all. -/
theorem gives_seq {first : Record σ (α → β)} {second : Record σ α}
    (gives : first.Gives fun f => ∀ value, Holds (f value)) : (first <*> second).Gives Holds :=
  gives_seq_of (fun _ _ _ => trivial) fun given f taken value (_ : True) => gives given f taken value

/-! ### Fields -/

theorem exists_decode_of_value? {given : Given} {slot : Slot} {decode : Json → Except Fault α} {value : α}
    (found : given.value? slot decode = .ok (some value)) : ∃ document, decode document = .ok value := by
  unfold Given.value? at found
  split at found
  · cases found
  · split at found
    · cases found
    · split at found <;> cases found
      exact ⟨_, ‹_›⟩

theorem gives_required {slot : Slot} {get : σ → α} {codec : Codec α} (gives : codec.Gives Known) :
    (required slot get codec).Gives Known := by
  intro given value taken
  unfold required at taken
  simp only at taken
  split at taken <;> cases taken
  rcases exists_decode_of_value? ‹_› with ⟨document, decoded⟩
  exact gives document value decoded

theorem gives_optional {slot : Slot} {get : σ → Option α} {codec : Codec α} {Known : Option α → Prop}
    (gives : codec.nullable.Gives Known) : (optional slot get codec).Gives Known := by
  intro given found taken
  rcases exists_ok_of_map taken with ⟨read, value, rfl⟩
  cases read with
  | none => exact gives .null none rfl
  | some result =>
      rcases exists_decode_of_value? value with ⟨document, decoded⟩
      exact gives document result decoded

theorem gives_hidden (value : α) : (hidden value : Record σ α).Gives fun read => read = value := by
  intro given read taken
  cases taken
  rfl

/-! ### Documents -/

/-- A document is read field by field or item by item, and either way by the record. -/
theorem Gives.decode {record : Record σ α} (gives : record.Gives Known) {document : Json} {value : α}
    (decoded : record.decode document = .ok value) : Known value := by
  cases document with
  | object fields => exact gives _ value (ok_of_mapError decoded)
  | array items =>
      rcases exists_ok_of_bind decoded with ⟨read, result, kept⟩
      split at kept <;> cases kept
      exact gives _ value (ok_of_mapError result)
  | _ => cases decoded

theorem Gives.codec {record : Record α α} (gives : record.Gives Known) : record.codec.Gives Known :=
  fun _ _ decoded => gives.decode decoded

end Record
end Fleet
