import Fleet.Proofs.Codec.Alike
import Fleet.Proofs.Codec.Records

namespace Fleet

/-!
# Records that another record wrote

What one record writes may be read by another one, whose fields have the same names but may come in more forms.
The reader finds what was written if it looks for every field that was, whatever the order in which the fields
arrive.  What it makes of them is said field by field, in step with the record that wrote them, and what is left is
a statement about the function that puts them together.
-/

variable {σ τ α β γ δ : Type}

namespace Codec

/-- A decoder gives something with a property for a document that is written, whichever way its fields arrive. -/
structure Accepts (decode : Json → Except Fault α) (document : Json) (Holds : α → Prop) : Prop where
  present : document ≠ .null
  reads : ∀ given : Json, given.Alike document → ∃ value, decode given = .ok value ∧ Holds value

/-- A value with nothing inside arrives as it was written. -/
theorem accepts_of_isLeaf {decode : Json → Except Fault α} {document : Json} {value : α} (leaf : document.IsLeaf)
    (present : document ≠ .null) (decoded : decode document = .ok value) : Accepts decode document (· = value) :=
  ⟨present, fun _ alike => ⟨value, alike.eq_of_isLeaf leaf ▸ decoded, rfl⟩⟩

/-- A reader that uses the codec of the writer gives the value back. -/
theorem accepts_exact (codec : Codec α) [exact : codec.Exact] (value : α) (leaf : (codec.encode value).IsLeaf) :
    Accepts codec.decode (codec.encode value) (· = value) :=
  accepts_of_isLeaf leaf (exact.encode_ne_null value) (exact.decode_encode value)

/-- A list of texts arrives as it was written, too. -/
theorem accepts_texts {decode : Json → Except Fault α} {texts : List String} {value : α}
    (decoded : decode (text.list.encode texts) = .ok value) : Accepts decode (text.list.encode texts) (· = value) := by
  refine ⟨nofun, fun given alike => ⟨value, ?_, rfl⟩⟩
  have leaves : ∀ item ∈ texts.map text.encode, item.IsLeaf := by
    intro item member
    rcases List.mem_map.1 member with ⟨_, _, rfl⟩
    trivial
  rw [alike.eq_array leaves]
  exact decoded

theorem decode_keyed_document (fields : List (String × Json)) :
    (keyed document).decode (.object fields) = .ok (Keyed.ofList fields) := by
  change (fields.mapM (fun field => (pure (id field) : Except Fault _)) >>=
    fun entries => pure (Keyed.ofList entries)) = _
  rw [List.mapM_pure, List.map_id]
  rfl

/-- Texts under keys are collected in the order of the keys, in whatever order they arrive. -/
theorem accepts_keyed_texts (map : Keyed String) :
    Accepts (keyed document).decode ((keyed text).encode map) (· = map.mapValues Json.string) := by
  refine ⟨nofun, fun given alike => ?_⟩
  have leaves : ∀ field ∈ map.entries.map fun entry => (entry.1, text.encode entry.2), field.2.IsLeaf := by
    intro field member
    rcases List.mem_map.1 member with ⟨_, _, rfl⟩
    trivial
  rcases alike.exists_perm leaves with ⟨fields, rfl, order⟩
  refine ⟨Keyed.ofList fields, decode_keyed_document fields, ?_⟩
  have different : ((map.mapValues Json.string).entries.map Prod.fst).Nodup :=
    List.pairwise_map.2 ((map.mapValues Json.string).increasing.imp String.ne_of_lt)
  have collected : Keyed.ofList fields = Keyed.ofList (map.mapValues Json.string).entries :=
    Keyed.ofList_eq_of_perm order different
  rw [collected, Keyed.ofList_entries]

end Codec

open Codec

namespace Record

/-! ## What is given and what was written -/

/-- What is given for each slot is what was written under its name, but for the order of fields. -/
def ShowsAlike (given : Given) (slots : List Slot) (fields : List (String × Json)) : Prop :=
  ∀ slot ∈ slots, List.Forall₂ Json.Alike ((given.found slot).map Prod.snd) (valuesUnder slot.name fields)

theorem forall₂_valuesUnder {moved others : List (String × Json)} (alike : List.Forall₂ Json.AlikeField moved others)
    (name : String) : List.Forall₂ Json.Alike (valuesUnder name moved) (valuesUnder name others) := by
  induction alike with
  | nil => exact .nil
  | cons first _ inductionHypothesis =>
      rw [valuesUnder_cons, valuesUnder_cons, first.1]
      split
      · exact .cons first.2 inductionHypothesis
      · exact inductionHypothesis

/-- Of a part that one record writes, another one reads something with a property. -/
structure Rereads (reader : Record τ α) (writer : Record σ β) (whole : σ) (Holds : α → Prop) : Prop where
  /-- Every field is written at most once, and in the order in which the reader has them. -/
  keys : ((writer.write whole).map Prod.fst).Sublist (reader.slots.map Slot.name)
  take : (reader.slots.map Slot.name).Nodup → ∀ given, ShowsAlike given reader.slots (writer.write whole) →
    ∃ value, reader.take given = .ok value ∧ Holds value

variable {whole : σ} {Holds : β → Prop} {Known : α → Prop}

theorem Rereads.imp {reader : Record τ α} {writer : Record σ γ} {Wanted : α → Prop}
    (rereads : Rereads reader writer whole Known) (implies : ∀ part, Known part → Wanted part) :
    Rereads reader writer whole Wanted where
  keys := rereads.keys
  take different given shows := by
    rcases rereads.take different given shows with ⟨part, taken, known⟩
    exact ⟨part, taken, implies part known⟩

/-! ## Putting records together -/

theorem Rereads.map {reader : Record τ α} {writer : Record σ γ} {f : α → β} (g : γ → δ)
    (rereads : Rereads reader writer whole fun part => Holds (f part)) :
    Rereads (f <$> reader) (g <$> writer) whole Holds where
  keys := rereads.keys
  take different given shows := by
    rcases rereads.take different given shows with ⟨part, taken, holds⟩
    exact ⟨f part, take_map f taken, holds⟩

theorem Rereads.seq {first : Record τ (α → β)} {second : Record τ α} {firstWriter : Record σ (γ → δ)}
    {secondWriter : Record σ γ} (argument : Rereads second secondWriter whole Known)
    (function : Rereads first firstWriter whole fun f => ∀ part, Known part → Holds (f part)) :
    Rereads (first <*> second) (firstWriter <*> secondWriter) whole Holds where
  keys := by
    change ((firstWriter.write whole ++ secondWriter.write whole).map Prod.fst).Sublist
      ((first.slots ++ second.slots).map Slot.name)
    rw [List.map_append, List.map_append]
    exact function.keys.append argument.keys
  take different given shows := by
    change ((first.slots ++ second.slots).map Slot.name).Nodup at different
    change ShowsAlike given (first.slots ++ second.slots) (firstWriter.write whole ++ secondWriter.write whole) at shows
    rw [List.map_append, List.nodup_append] at different
    rcases different with ⟨firstDifferent, secondDifferent, apart⟩
    have firstShows : ShowsAlike given first.slots (firstWriter.write whole) := by
      intro slot member
      have none : valuesUnder slot.name (secondWriter.write whole) = [] := valuesUnder_eq_nil fun written =>
        apart _ (List.mem_map_of_mem member) _ (argument.keys.subset written) rfl
      have shown := shows slot (List.mem_append_left _ member)
      rwa [valuesUnder_append, none, List.append_nil] at shown
    have secondShows : ShowsAlike given second.slots (secondWriter.write whole) := by
      intro slot member
      have none : valuesUnder slot.name (firstWriter.write whole) = [] := valuesUnder_eq_nil fun written =>
        apart _ (function.keys.subset written) _ (List.mem_map_of_mem member) rfl
      have shown := shows slot (List.mem_append_right _ member)
      rwa [valuesUnder_append, none, List.nil_append] at shown
    rcases function.take firstDifferent given firstShows with ⟨f, functionTaken, holds⟩
    rcases argument.take secondDifferent given secondShows with ⟨part, argumentTaken, known⟩
    exact ⟨f part, take_seq functionTaken argumentTaken, holds part known⟩

/-- A field of which nothing is written need not be read. -/
theorem Rereads.unwritten {reader : Record τ β} {writer : Record σ (γ → δ)} {field : Record σ γ}
    (nothing : field.write whole = []) (rereads : Rereads reader writer whole Holds) :
    Rereads reader (writer <*> field) whole Holds := by
  have written : (writer <*> field).write whole = writer.write whole := by
    change writer.write whole ++ field.write whole = _
    rw [nothing, List.append_nil]
  constructor
  · rw [written]
    exact rereads.keys
  · rw [written]
    exact rereads.take

/-! ## Fields -/

section Fields

variable {slot : Slot} {decode : Json → Except Fault β} {field : Record σ γ} {document : Json}

theorem found_of_showsAlike {given : Given} (shows : ShowsAlike given [slot] [(slot.name, document)]) :
    ∃ value, (given.found slot).map Prod.snd = [value] ∧ value.Alike document := by
  have shown := shows slot (List.mem_singleton_self slot)
  rw [valuesUnder_cons, if_pos rfl] at shown
  rcases List.forall₂_cons_right_iff.1 shown with ⟨value, more, alike, nothing, found⟩
  rw [List.forall₂_nil_right_iff.1 nothing] at found
  exact ⟨value, found, alike⟩

theorem rereads_need (written : field.write whole = [(slot.name, document)]) (accepts : Accepts decode document Holds) :
    Rereads (need slot decode : Record τ β) field whole Holds := by
  constructor
  · rw [written]
    exact List.Sublist.refl [slot.name]
  · intro _ given shows
    rcases found_of_showsAlike (written ▸ shows) with ⟨value, found, alike⟩
    rcases accepts.reads value alike with ⟨result, decoded, holds⟩
    exact ⟨result, take_need found decoded, holds⟩

theorem rereads_may (written : field.write whole = [(slot.name, document)]) (accepts : Accepts decode document Holds) :
    Rereads (may slot decode : Record τ (Option β)) field whole fun read =>
      ∃ value, read = some value ∧ Holds value := by
  constructor
  · rw [written]
    exact List.Sublist.refl [slot.name]
  · intro _ given shows
    rcases found_of_showsAlike (written ▸ shows) with ⟨value, found, alike⟩
    rcases accepts.reads value alike with ⟨result, decoded, holds⟩
    exact ⟨some result, take_may_of_present found (alike.ne_null accepts.present) decoded, result, rfl, holds⟩

/-- A field that may be absent is read as it was written, if it was. -/
theorem rereads_may_optional {name : String} {aliases : List String} {get : σ → Option α} {codec : Codec α} {f : α → β}
    (accepts : ∀ value, get whole = some value → Accepts decode (codec.encode value) (· = f value)) :
    Rereads (may ⟨name, aliases⟩ decode : Record τ (Option β)) (optional ⟨name, []⟩ get codec) whole
      (· = (get whole).map f) := by
  cases present : get whole with
  | none =>
      have nothing : (optional ⟨name, []⟩ get codec).write whole = [] := if_pos (by rw [present]; rfl)
      constructor
      · rw [nothing]
        exact List.nil_sublist _
      · intro _ given shows
        have shown := shows ⟨name, aliases⟩ (List.mem_singleton_self _)
        rw [nothing] at shown
        exact ⟨none, take_may_of_absent (List.forall₂_nil_right_iff.1 shown), rfl⟩
  | some value =>
      have written : (optional ⟨name, []⟩ get codec).write whole = [(name, codec.encode value)] := by
        change (if (get whole).isNone then [] else [(name, codec.nullable.encode (get whole))]) = _
        rw [present]
        rfl
      have rereads : Rereads (may ⟨name, aliases⟩ decode : Record τ (Option β)) _ whole _ :=
        rereads_may written (accepts value present)
      refine ⟨rereads.keys, fun different given shows => ?_⟩
      rcases rereads.take different given shows with ⟨_, taken, _, rfl, rfl⟩
      exact ⟨_, taken, rfl⟩

end Fields

/-! ## Whole records -/

/-- An object that a record wrote is read by the other one, whichever way its fields arrive. -/
theorem Rereads.decode {reader : Record τ β} {writer : Record σ α} (separate : Separate reader.slots)
    (rereads : Rereads reader writer whole Holds) {given : Json} (alike : given.Alike (.object (writer.write whole))) :
    ∃ value, reader.decode given = .ok value ∧ Holds value := by
  rcases alike.exists_fields with ⟨fields, moved, rfl, order, each⟩
  have keys := rereads.keys
  rw [← Json.keys_eq_of_alike each] at keys
  have shows : ShowsAlike (ofFields fields) reader.slots (writer.write whole) := by
    intro slot member
    rw [shows_of_perm separate order (separate.1.sublist keys) keys.subset slot member]
    exact forall₂_valuesUnder each slot.name
  rcases rereads.take separate.1 (ofFields fields) shows with ⟨value, taken, holds⟩
  refine ⟨value, ?_, holds⟩
  change (reader.take (ofFields fields)).mapError Prod.snd = _
  rw [taken]
  rfl

end Record
end Fleet
