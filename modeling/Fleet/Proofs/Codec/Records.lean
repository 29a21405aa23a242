import Fleet.Codec.Record
import Fleet.Proofs.Codec.Restoring
import Mathlib.Data.List.Basic

namespace Fleet

/-!
# Records that are written and read again

A record is read field by field, and every field looks at its own key only.  So a record is restored when each of its
fields is, provided that no field finds what another one wrote.  Names that differ see to this, and aliases that are no
names of other fields.

A field that was left out is restored if it had the value that is read when it is absent.

Records that are only ever read find their fields in the same way.  Where no name is given twice, it does not matter in
which order the fields of an object stand.
-/

namespace Record

variable {σ α β : Type}

/-! ## What is found of what was written -/

/-- The values under a name, in their order. -/
def valuesUnder (name : String) (fields : List (String × Json)) : List Json :=
  fields.filterMap fun field => if field.1 = name then some field.2 else none

theorem valuesUnder_append (name : String) (first second : List (String × Json)) :
    valuesUnder name (first ++ second) = valuesUnder name first ++ valuesUnder name second :=
  List.filterMap_append

theorem valuesUnder_cons (name : String) (field : String × Json) (fields : List (String × Json)) :
    valuesUnder name (field :: fields) =
      if field.1 = name then field.2 :: valuesUnder name fields else valuesUnder name fields := by
  by_cases here : field.1 = name <;> simp [valuesUnder, here]

theorem valuesUnder_eq_nil {name : String} {fields : List (String × Json)} (absent : name ∉ fields.map Prod.fst) :
    valuesUnder name fields = [] := by
  refine List.filterMap_eq_nil_iff.2 fun field member => if_neg fun same => absent ?_
  exact same ▸ List.mem_map_of_mem member

theorem valuesUnder_eq_singleton {name : String} {value : Json} {fields : List (String × Json)}
    (once : (fields.map Prod.fst).Nodup) (member : (name, value) ∈ fields) : valuesUnder name fields = [value] := by
  rcases List.append_of_mem member with ⟨before, after, rfl⟩
  rw [List.map_append, List.map_cons, List.perm_middle.nodup_iff, List.nodup_cons, List.mem_append, not_or] at once
  rw [valuesUnder_append, valuesUnder_eq_nil once.1.1, valuesUnder_cons, if_pos rfl, valuesUnder_eq_nil once.1.2,
    List.nil_append]

/-- Where no name is given twice, the order of the fields makes no difference. -/
theorem valuesUnder_eq_of_perm {fields written : List (String × Json)} (order : fields.Perm written)
    (once : (written.map Prod.fst).Nodup) (name : String) : valuesUnder name fields = valuesUnder name written := by
  have keys : (fields.map Prod.fst).Perm (written.map Prod.fst) := order.map Prod.fst
  by_cases present : name ∈ written.map Prod.fst
  · rcases List.mem_map.1 present with ⟨⟨_, value⟩, member, rfl⟩
    rw [valuesUnder_eq_singleton once member, valuesUnder_eq_singleton (keys.nodup_iff.2 once) (order.mem_iff.2 member)]
  · rw [valuesUnder_eq_nil present, valuesUnder_eq_nil fun given => present (keys.mem_iff.1 given)]

/-- What is given for each slot is what was written under its name. -/
def Shows (given : Given) (slots : List Slot) (fields : List (String × Json)) : Prop :=
  ∀ slot ∈ slots, (given.found slot).map Prod.snd = valuesUnder slot.name fields

/-- A part of a record is read of what was written as it was, but for what documents do not show. -/
class Restores (record : Record σ α) (whole : σ) (restored : outParam α) : Prop where
  /-- Nothing is written but under the names of the slots. -/
  keys : (record.write whole).map Prod.fst ⊆ record.slots.map Slot.name
  take : (record.slots.map Slot.name).Nodup →
    ∀ given, Shows given record.slots (record.write whole) → record.take given = .ok restored

/-! ## Putting records together -/

theorem take_map {record : Record σ α} {given : Given} {part : α} (f : α → β) (taken : record.take given = .ok part) :
    (f <$> record).take given = .ok (f part) :=
  congrArg (Except.map f) taken

theorem take_seq {first : Record σ (α → β)} {second : Record σ α} {given : Given} {f : α → β} {part : α}
    (function : first.take given = .ok f) (argument : second.take given = .ok part) :
    (first <*> second).take given = .ok (f part) :=
  congrArg₂ Misfit.both function argument

instance (value : α) (whole : σ) : (pure value : Record σ α).Restores whole value where
  keys := List.Subset.refl []
  take _ _ _ := rfl

instance (value : α) (whole : σ) : (hidden value : Record σ α).Restores whole value :=
  inferInstanceAs ((pure value : Record σ α).Restores whole value)

instance (f : α → β) (record : Record σ α) (whole : σ) (part : α) [restores : record.Restores whole part] :
    (f <$> record).Restores whole (f part) where
  keys := restores.keys
  take different given shows := take_map f (restores.take different given shows)

instance (first : Record σ (α → β)) (second : Record σ α) (whole : σ) (f : α → β) (part : α)
    [left : first.Restores whole f] [right : second.Restores whole part] :
    (first <*> second).Restores whole (f part) where
  keys := by
    change (first.write whole ++ second.write whole).map Prod.fst ⊆ (first.slots ++ second.slots).map Slot.name
    rw [List.map_append, List.map_append]
    exact List.append_subset.2 ⟨List.Subset.trans left.keys (List.subset_append_left _ _),
      List.Subset.trans right.keys (List.subset_append_right _ _)⟩
  take different given shows := by
    change ((first.slots ++ second.slots).map Slot.name).Nodup at different
    change Shows given (first.slots ++ second.slots) (first.write whole ++ second.write whole) at shows
    rw [List.map_append, List.nodup_append] at different
    rcases different with ⟨leftDifferent, rightDifferent, apart⟩
    have leftShows : Shows given first.slots (first.write whole) := by
      intro slot member
      have none : valuesUnder slot.name (second.write whole) = [] :=
        valuesUnder_eq_nil fun written => apart _ (List.mem_map_of_mem member) _ (right.keys written) rfl
      rw [shows slot (List.mem_append_left _ member), valuesUnder_append, none, List.append_nil]
    have rightShows : Shows given second.slots (second.write whole) := by
      intro slot member
      have none : valuesUnder slot.name (first.write whole) = [] :=
        valuesUnder_eq_nil fun written => apart _ (left.keys written) _ (List.mem_map_of_mem member) rfl
      rw [shows slot (List.mem_append_right _ member), valuesUnder_append, none, List.nil_append]
    exact take_seq (left.take leftDifferent given leftShows) (right.take rightDifferent given rightShows)

/-! ## Fields -/

theorem value?_eq_none {given : Given} {slot : Slot} (absent : (given.found slot).map Prod.snd = [])
    (decode : Json → Except Fault α) : given.value? slot decode = .ok none := by
  unfold Given.value?
  rw [List.map_eq_nil_iff.1 absent]

theorem value?_eq_some {given : Given} {slot : Slot} {written : Json}
    (once : (given.found slot).map Prod.snd = [written]) {decode : Json → Except Fault α} {value : α}
    (decoded : decode written = .ok value) : given.value? slot decode = .ok (some value) := by
  rcases List.map_eq_singleton_iff.1 once with ⟨⟨place, found⟩, single, rfl⟩
  unfold Given.value?
  rw [single]
  simp only [decoded]

theorem found_of_shows {given : Given} {slot : Slot} {value : Json} (shows : Shows given [slot] [(slot.name, value)]) :
    (given.found slot).map Prod.snd = [value] := by
  rw [shows slot (List.mem_singleton_self slot)]
  simp [valuesUnder]

instance (slot : Slot) (get : σ → β) (codec : Codec β) (whole : σ) (restored : β)
    [restores : codec.Restores (get whole) restored] : (required slot get codec).Restores whole restored where
  keys := List.Subset.refl [slot.name]
  take _ given shows := by
    unfold required
    simp only [value?_eq_some (found_of_shows shows) restores.decode_encode]

/-- A field that may be left out is restored if what is read in its absence is what was left out. -/
theorem restores_defaulted (slot : Slot) (get : σ → β) (codec : Codec β) (default : β) (unwritten : β → Bool)
    (whole : σ) {restored : β} (written : unwritten (get whole) = false → codec.Restores (get whole) restored)
    (left : unwritten (get whole) = true → default = restored) :
    (defaulted slot get codec default unwritten).Restores whole restored := by
  cases out : unwritten (get whole) with
  | true =>
      have nothing : (defaulted slot get codec default unwritten).write whole = [] := if_pos out
      constructor
      · rw [nothing]
        exact List.nil_subset _
      · intro _ given shows
        rw [nothing] at shows
        change (given.value? slot codec.decode).map (fun value => value.getD default) = _
        rw [value?_eq_none (shows slot (List.mem_singleton_self slot))]
        exact congrArg Except.ok (left out)
  | false =>
      have something : (defaulted slot get codec default unwritten).write whole =
          [(slot.name, codec.encode (get whole))] := if_neg (by simp [out])
      constructor
      · rw [something]
        exact List.Subset.refl [slot.name]
      · intro _ given shows
        rw [something] at shows
        change (given.value? slot codec.decode).map (fun value => value.getD default) = _
        rw [value?_eq_some (found_of_shows shows) (written out).decode_encode]
        rfl

instance (slot : Slot) (get : σ → β) (codec : Codec β) (default : β) (whole : σ) (restored : β)
    [restores : codec.Restores (get whole) restored] : (defaulted slot get codec default).Restores whole restored :=
  restores_defaulted slot get codec default _ whole (fun _ => restores) nofun

instance (slot : Slot) (get : σ → List β) (codec : Codec (List β)) (whole : σ) [codec.Faithful] :
    (defaulted slot get codec [] List.isEmpty).Restores whole (get whole) :=
  restores_defaulted slot get codec [] _ whole (fun _ => inferInstance) fun empty => (List.isEmpty_iff.1 empty).symm

instance (slot : Slot) (get : σ → Option β) (codec : Codec β) (whole : σ) (restored : Option β)
    [restores : codec.nullable.Restores (get whole) restored] : (optional slot get codec).Restores whole restored := by
  refine restores_defaulted slot get codec.nullable none _ whole (fun _ => restores) fun absent => ?_
  -- What was left out would have been written as null, and that is read as nothing.
  have decoded := restores.decode_encode
  rw [Option.isNone_iff_eq_none.1 absent] at decoded
  exact Except.ok.inj decoded

/-! ## Fields that are only read -/

theorem take_may_of_absent {given : Given} {slot : Slot} {decode : Json → Except Fault β}
    (absent : (given.found slot).map Prod.snd = []) :
    (may slot decode : Record σ (Option β)).take given = .ok none := by
  change (given.value? slot (Codec.nullable ⟨fun _ => .null, decode⟩).decode).map (fun value => value.getD none) = _
  rw [value?_eq_none absent]
  rfl

theorem take_may_of_present {given : Given} {slot : Slot} {value : Json} {decode : Json → Except Fault β} {read : β}
    (shown : (given.found slot).map Prod.snd = [value]) (present : value ≠ .null) (decoded : decode value = .ok read) :
    (may slot decode : Record σ (Option β)).take given = .ok (some read) := by
  have nullable : (Codec.nullable ⟨fun _ => .null, decode⟩).decode value = .ok (some read) := by
    rw [Codec.decode_nullable present]
    exact congrArg (Except.map some) decoded
  change (given.value? slot (Codec.nullable ⟨fun _ => .null, decode⟩).decode).map (fun value => value.getD none) = _
  rw [value?_eq_some shown nullable]
  rfl

/-- A field that may be absent is read of its value, if there is one. -/
theorem take_may {given : Given} {slot : Slot} {value : Option Json} {decode : Json → Except Fault β} {read : Option β}
    (shown : (given.found slot).map Prod.snd = value.toList) (refuses : ∀ result, decode .null ≠ .ok result)
    (decoded : value.mapM decode = .ok read) : (may slot decode : Record σ (Option β)).take given = .ok read := by
  cases value with
  | none =>
      cases decoded
      exact take_may_of_absent shown
  | some value =>
      rcases exists_ok_of_map decoded with ⟨result, found, rfl⟩
      exact take_may_of_present shown (fun null => refuses result (null ▸ found)) found

/-- If a field that may be absent is read, it is given once at most, and read of what is given. -/
theorem cases_of_take_may {given : Given} {slot : Slot} {decode : Json → Except Fault β} {read : Option β}
    (taken : (may slot decode : Record σ (Option β)).take given = .ok read) :
    (given.found slot).map Prod.snd = [] ∧ read = none ∨ ∃ value, (given.found slot).map Prod.snd = [value] ∧
      (Codec.nullable ⟨fun _ => .null, decode⟩).decode value = .ok read := by
  rcases exists_ok_of_map taken with ⟨found, looked, rfl⟩
  unfold Given.value? at looked
  split at looked
  · rename_i nothing
    cases looked
    exact Or.inl ⟨by rw [nothing]; rfl, rfl⟩
  · rename_i place value more several
    split at looked
    · cases looked
    · rename_i result decoded
      split at looked
      · cases looked
        exact Or.inr ⟨value, by rw [several]; rfl, decoded⟩
      · cases looked

/-- If a field that may be absent is read, then every value that is given for it is what was read. -/
theorem decode_of_take_may {given : Given} {slot : Slot} {value : Json} {decode : Json → Except Fault β}
    {read : Option β} (shown : value ∈ (given.found slot).map Prod.snd) (present : value ≠ .null)
    (taken : (may slot decode : Record σ (Option β)).take given = .ok read) :
    ∃ result, decode value = .ok result ∧ read = some result := by
  rcases cases_of_take_may taken with ⟨nothing, _⟩ | ⟨other, single, decoded⟩
  · rw [nothing] at shown
    cases shown
  · rw [single] at shown
    cases List.mem_singleton.1 shown
    rw [Codec.decode_nullable present] at decoded
    rcases exists_ok_of_map decoded with ⟨result, found, rfl⟩
    exact ⟨result, found, rfl⟩

theorem take_need {given : Given} {slot : Slot} {value : Json} {decode : Json → Except Fault β} {read : β}
    (shown : (given.found slot).map Prod.snd = [value]) (decoded : decode value = .ok read) :
    (need slot decode : Record σ β).take given = .ok read := by
  unfold need
  simp only [value?_eq_some shown decoded]

/-! ## Whole records -/

/-- The fields of a record are told apart by their names, and none has another one's name for an alias. -/
def Separate (slots : List Slot) : Prop :=
  (slots.map Slot.name).Nodup ∧ ∀ slot ∈ slots, ∀ other ∈ slots, other.name ∉ slot.aliases

instance (slots : List Slot) : Decidable (Separate slots) :=
  inferInstanceAs (Decidable (_ ∧ _))

/-- What is found among entries that are numbered is what is found among the entries, with their numbers. -/
theorem map_snd_filterMap_zipIdx {ε : Type} (fits : ε → Bool) (value : ε → Json) (entries : List ε) :
    (entries.zipIdx.filterMap fun entry => if fits entry.1 then some (entry.2, value entry.1) else none).map Prod.snd =
      entries.filterMap fun entry => if fits entry then some (value entry) else none := by
  let value? : ε → Option Json := fun entry => if fits entry then some (value entry) else none
  have values : ∀ entry : ε × Nat,
      Option.map Prod.snd (if fits entry.1 then some (entry.2, value entry.1) else none) = value? entry.1 := by
    intro entry
    change _ = if _ then _ else _
    split <;> rfl
  calc
    (entries.zipIdx.filterMap fun entry => if fits entry.1 then some (entry.2, value entry.1) else none).map Prod.snd
      = entries.zipIdx.filterMap fun entry => value? entry.1 := by simp only [List.map_filterMap, values]
    _ = (entries.zipIdx.map Prod.fst).filterMap value? := by rw [List.filterMap_map]; rfl
    _ = entries.filterMap value? := by rw [List.zipIdx_map_fst]

theorem values_found_ofFields (fields : List (String × Json)) (slot : Slot) :
    ((ofFields fields).found slot).map Prod.snd =
      fields.filterMap fun field => if slot.hasName field.1 then some field.2 else none :=
  map_snd_filterMap_zipIdx (fun field : String × Json => slot.hasName field.1) Prod.snd fields

theorem values_found_ofItems (slots : List Slot) (items : List Json) (slot : Slot) :
    ((ofItems slots items).found slot).map Prod.snd =
      (slots.zip items).filterMap fun item => if item.1.name == slot.name then some item.2 else none :=
  map_snd_filterMap_zipIdx (fun item : Slot × Json => item.1.name == slot.name) Prod.snd (slots.zip items)

/-- The values that a document gives for a field: an object under the names of the field, an array at its place. -/
def valuesFor (slots : List Slot) (slot : Slot) : Json → List Json
  | .object fields => fields.filterMap fun field => if slot.hasName field.1 then some field.2 else none
  | .array items => (slots.zip items).filterMap fun item => if item.1.name == slot.name then some item.2 else none
  | _ => []

theorem exists_take_of_decode {record : Record σ α} {document : Json} {read : α}
    (decoded : record.decode document = .ok read) :
    ∃ given, record.take given = .ok read ∧
      ∀ slot, (given.found slot).map Prod.snd = valuesFor record.slots slot document := by
  cases document with
  | object fields => exact ⟨ofFields fields, ok_of_mapError decoded, values_found_ofFields fields⟩
  | array items =>
      rcases exists_ok_of_bind decoded with ⟨value, result, kept⟩
      split at kept <;> cases kept
      exact ⟨ofItems record.slots items, ok_of_mapError result, values_found_ofItems record.slots items⟩
  | _ => cases decoded

/-- An object that was written shows what was written, whatever other names its fields could have had. -/
theorem shows_ofFields {slots : List Slot} (separate : Separate slots) {fields : List (String × Json)}
    (keys : fields.map Prod.fst ⊆ slots.map Slot.name) : Shows (ofFields fields) slots fields := by
  intro slot member
  rw [values_found_ofFields]
  refine List.filterMap_congr fun field written => ?_
  rcases List.mem_map.1 (keys (List.mem_map_of_mem written)) with ⟨other, otherMember, name⟩
  have noAlias : field.1 ∉ slot.aliases := name ▸ separate.2 slot member other otherMember
  have named : slot.hasName field.1 = decide (field.1 = slot.name) := by
    unfold Slot.hasName
    rw [List.contains_eq_mem, decide_eq_false noAlias, Bool.or_false]
    rfl
  rw [named]
  simp only [decide_eq_true_eq]

/-- What an object gives for the fields of a record does not depend on the order in which they stand. -/
theorem shows_of_perm {slots : List Slot} (separate : Separate slots) {fields written : List (String × Json)}
    (order : fields.Perm written) (once : (written.map Prod.fst).Nodup)
    (keys : written.map Prod.fst ⊆ slots.map Slot.name) : Shows (ofFields fields) slots written := by
  intro slot member
  rw [shows_ofFields separate (fun _ given => keys ((order.map Prod.fst).mem_iff.1 given)) slot member]
  exact valuesUnder_eq_of_perm order once slot.name

theorem restores_codec {record : Record α α} (separate : Separate record.slots) {whole restored : α}
    [restores : record.Restores whole restored] : record.codec.Restores whole restored := by
  constructor
  change (record.take (ofFields (record.write whole))).mapError Prod.snd = _
  rw [restores.take separate.1 _ (shows_ofFields separate restores.keys)]
  rfl

/-- A record is read as it was if all of its fields are. -/
theorem exact_codec {record : Record α α} (separate : Separate record.slots)
    (restores : ∀ whole, record.Restores whole whole) : record.codec.Exact where
  decode_encode _ := (restores_codec separate).decode_encode
  encode_ne_null _ := nofun

end Record
end Fleet
