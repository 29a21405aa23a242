import Fleet.Proofs.Keyed
import Fleet.Proofs.Report.Parts

namespace Fleet
namespace Report

/-!
# What cannot be used of a report

The unusable parts of a document are said here field by field, apart from the reader that leaves them out: a
value of the wrong kind is unusable as a whole, and so is each entry that does not decode, whatever stands next to
it.  The reader and this account agree field by field, which is the contract `Reads`: the warnings name the
unusable parts one by one, and a document from which they are taken out reads as before, without a warning.

A column says what is unusable of one field.  It names no part of another field, so taking out the parts of one
column leaves the others alone.
-/

/-- What is unusable of the values of a field. -/
structure Column where
  name : String
  unusable : Json → List Part
  own : ∀ value, ∀ part ∈ unusable value, part.field? = some name
  nodup : ∀ value, (unusable value).Nodup

namespace Column

/-- What is unusable of a document because of one of its fields. -/
def parts (column : Column) (document : Json) : List Part :=
  ((document.field? column.name).map column.unusable).getD []

/-- A field that has to be a list.  Its entries are named by their places. -/
def list {α : Type} (name : String) (read : Json → Except Problem α) : Column where
  name := name
  unusable
    | .array items => refused name (fun item => toString item.2) (fun item => (read item).isOk) items
    | _ => [.field name]
  own := by
    intro value part member
    cases value with
    | array items => exact Part.field?_of_isEntryOf (isEntryOf_of_mem_refused member)
    | _ => exact List.mem_singleton.1 member ▸ rfl
  nodup := by
    intro value
    cases value with
    | array items => exact nodup_refused items
    | _ => exact List.nodup_singleton _

/-- The files, which have to be an object.  They are named by their keys. -/
def files : Column where
  name := "files"
  unusable
    | .object entries =>
        refused "files" (fun entry => entry.1.1) (fun entry => (readFile entry.1 entry.2).isOk) entries
    | _ => [.field "files"]
  own := by
    intro value part member
    cases value with
    | object entries => exact Part.field?_of_isEntryOf (isEntryOf_of_mem_refused member)
    | _ => exact List.mem_singleton.1 member ▸ rfl
  nodup := by
    intro value
    cases value with
    | object entries => exact nodup_refused entries
    | _ => exact List.nodup_singleton _

theorem unusable_list_array {α : Type} (name : String) (read : Json → Except Problem α) (items : List Json) :
    (list name read).unusable (.array items) =
      refused name (fun item => toString item.2) (fun item => (read item).isOk) items := rfl

theorem unusable_files_object (entries : List (String × Json)) :
    files.unusable (.object entries) =
      refused "files" (fun entry => entry.1.1) (fun entry => (readFile entry.1 entry.2).isOk) entries := rfl

/-- A field that is used as a whole or not at all. -/
def whole (name : String) (usable : Json → Bool) : Column where
  name := name
  unusable value := if usable value then [] else [.field name]
  own := by
    intro value part member
    split at member
    · cases member
    · exact List.mem_singleton.1 member ▸ rfl
  nodup := by
    intro value
    split
    · exact List.nodup_nil
    · exact List.nodup_singleton _

theorem unusable_whole (name : String) (usable : Json → Bool) (value : Json) :
    (whole name usable).unusable value = if usable value then [] else [.field name] := rfl

/-- The resources are an object that decodes; `null` may stand for them, and says nothing. -/
def resources : Column :=
  whole "resources" fun
    | .null => true
    | .object fields => (SystemResources.codec.decode (.object fields)).isOk
    | _ => false

def completion : Column :=
  whole "initialSyncComplete" fun
    | .bool _ => true
    | _ => false

end Column

/-- The fields of a report, in the order in which they are looked at. -/
def columns : List Column :=
  [.list "containers" readContainer, .list "services" readService, .list "volumes" readVolume,
    .list "proxyRoutes" readRoute, .list "proxy" readRoute, .files, .resources, .completion]

/-- The unusable parts of a document. -/
def unusable : Json → List Part
  | .object fields => columns.flatMap fun column => column.parts (.object fields)
  | _ => [.root]

namespace Column

variable {column other : Column} {document value : Json} {fields : List (String × Json)} {part : Part}

theorem parts_of_field? (given : document.field? column.name = some value) :
    column.parts document = column.unusable value := by
  rw [parts, given]
  rfl

theorem parts_of_absent (absent : document.field? column.name = none) : column.parts document = [] := by
  rw [parts, absent]
  rfl

theorem field?_of_mem_parts (member : part ∈ column.parts document) : part.field? = some column.name := by
  cases given : document.field? column.name with
  | none => rw [parts_of_absent given] at member; cases member
  | some value => exact column.own value part (parts_of_field? given ▸ member)

theorem nodup_parts (column : Column) (document : Json) : (column.parts document).Nodup := by
  cases given : document.field? column.name with
  | none => rw [parts_of_absent given]; exact List.nodup_nil
  | some value => rw [parts_of_field? given]; exact column.nodup value

/-- No field has two columns. -/
theorem nodup_names : (columns.map name).Nodup := by
  decide

/-- The unusable parts of one field are those of its column. -/
theorem mem_unusable_iff (listed : column ∈ columns) (here : part.field? = some column.name) :
    part ∈ Report.unusable (.object fields) ↔ part ∈ column.parts (.object fields) := by
  constructor
  · intro member
    rcases List.mem_flatMap.1 member with ⟨other, otherListed, inOther⟩
    have names : other.name = column.name :=
      Option.some.inj ((field?_of_mem_parts inOther).symm.trans here)
    rwa [← List.inj_on_of_nodup_map nodup_names otherListed listed names]
  · intro member
    exact List.mem_flatMap.2 ⟨column, listed, member⟩

end Column

theorem nodup_unusable (document : Json) : (unusable document).Nodup := by
  cases document with
  | object fields =>
      refine List.nodup_flatMap.2 ⟨fun column _ => column.nodup_parts _, ?_⟩
      refine (List.pairwise_map.1 Column.nodup_names).imp fun different part inFirst inSecond => different ?_
      exact Option.some.inj ((Column.field?_of_mem_parts inFirst).symm.trans (Column.field?_of_mem_parts inSecond))
  | _ => exact List.nodup_singleton _

/-! ## The contract of a reader -/

/-- A reader of a field that keeps to a column: its warnings name the unusable parts one by one, it gives nothing
for an unusable value, and when the unusable entries are taken out it gives the same without a warning. -/
structure Reads {α : Type} (column : Column) (read : Json → Field α) : Prop where
  named : ∀ value, (read value).2.map ShapeWarning.field = (column.unusable value).map Part.label
  dropped : ∀ value, Part.field column.name ∈ column.unusable value → (read value).1 = none
  kept : ∀ value, Part.field column.name ∉ column.unusable value →
    read (value.withoutEntries column.name (column.unusable value)) = ((read value).1, [])

namespace Reads

variable {α : Type} {column : Column} {read : Json → Field α}

theorem named_fieldOf (reads : Reads column read) (document : Json) :
    (fieldOf document column.name read).2.map ShapeWarning.field = (column.parts document).map Part.label := by
  unfold fieldOf
  cases given : document.field? column.name with
  | none => rw [Column.parts_of_absent given]; rfl
  | some value => rw [Column.parts_of_field? given]; exact reads.named value

/-- What a field gives stays when parts of a document are taken out, if those of the field are the unusable
ones. -/
theorem fieldOf_without (reads : Reads column read) {document : Json} {parts : List Part}
    (own : ∀ part : Part, part.field? = some column.name → (part ∈ parts ↔ part ∈ column.parts document)) :
    fieldOf (document.without parts) column.name read = ((fieldOf document column.name read).1, []) := by
  unfold fieldOf
  rw [Json.field?_without]
  cases given : document.field? column.name with
  | none =>
      rw [Option.map_none, ite_self]
      rfl
  | some value =>
      rw [Column.parts_of_field? given] at own
      by_cases removed : Part.field column.name ∈ parts
      · rw [if_pos removed]
        exact Prod.ext (reads.dropped value ((own _ rfl).1 removed)).symm rfl
      · rw [if_neg removed, Option.map_some, Json.withoutEntries_congr fun place key => own _ rfl]
        exact reads.kept value fun unusable => removed ((own _ rfl).2 unusable)

end Reads

/-! ## The readers -/

section Entries

variable {α : Type} {field : String} {read : Json → Except Problem α}

theorem complaints_eq_nil {entries : List (String × Json)} (readable : ∀ entry ∈ entries, (read entry.2).isOk = true) :
    complaints field read entries = [] := by
  refine List.filterMap_eq_nil_iff.2 fun entry member => ?_
  have ok := readable entry member
  cases result : read entry.2 with
  | ok _ => rfl
  | error _ => rw [result] at ok; cases ok

theorem field_complaints (entries : List (String × Json)) :
    (complaints field read entries).map ShapeWarning.field =
      (entries.filter fun entry => !(read entry.2).isOk).map fun entry => ShapeWarning.entryName field entry.1 := by
  induction entries with
  | nil => rfl
  | cons entry rest inductionHypothesis =>
      rw [complaints] at inductionHypothesis ⊢
      cases result : read entry.2 with
      | ok _ => simpa [result, Except.isOk, Except.toBool] using inductionHypothesis
      | error _ => simpa [result, Except.isOk, Except.toBool] using inductionHypothesis

/-- Files are complained about one at a time, since a file is read with its key. -/
theorem field_fileComplaints (entries : List (String × Json)) :
    (entries.flatMap fun entry => complaints "files" (readFile entry.1) [entry]).map ShapeWarning.field =
      (entries.filter fun entry => !(readFile entry.1 entry.2).isOk).map
        fun entry => ShapeWarning.entryName "files" entry.1 := by
  induction entries with
  | nil => rfl
  | cons entry rest inductionHypothesis =>
      rw [List.flatMap_cons, List.map_append, inductionHypothesis, field_complaints]
      cases readable : (readFile entry.1 entry.2).isOk <;> simp [readable]

/-- Leaving out what cannot be read does not change what is read. -/
theorem filterMap_filter_isOk {β γ : Type} (reads : β → Except Problem α) (give : β → α → γ) (entries : List β) :
    ((entries.filter fun entry => (reads entry).isOk).filterMap fun entry => (reads entry).toOption.map (give entry)) =
      entries.filterMap fun entry => (reads entry).toOption.map (give entry) := by
  rw [List.filterMap_filter]
  refine List.filterMap_congr fun entry _ => ?_
  cases reads entry <;> rfl

end Entries

theorem reads_list {α : Type} (name : String) (read : Json → Except Problem α) :
    Reads (.list name read) (listField name read) where
  named := by
    intro value
    cases value with
    | array items =>
        rw [Column.unusable_list_array, listField, field_complaints, refused, List.filter_map, List.map_map,
          List.map_map]
        rfl
    | _ => rfl
  dropped := by
    intro value unusable
    cases value with
    | array items =>
        rw [Column.unusable_list_array] at unusable
        cases isEntryOf_of_mem_refused unusable
    | _ => rfl
  kept := by
    intro value usable
    cases value with
    | array items =>
        rw [Column.unusable_list_array]
        change listField name read (.array (retained name _ _ items)) = _
        rw [retained_refused]
        refine Prod.ext (congrArg some ?_) (complaints_eq_nil fun entry member => ?_)
        · simpa using filterMap_filter_isOk read (fun _ => id) items
        · rcases List.mem_map.1 member with ⟨item, itemMember, rfl⟩
          exact (List.mem_filter.1 (List.fst_mem_of_mem_zipIdx itemMember)).2
    | _ => exact absurd List.mem_cons_self usable

theorem reads_files : Reads .files filesField where
  named := by
    intro value
    cases value with
    | object entries =>
        rw [Column.unusable_files_object, label_refused, filesField, field_fileComplaints]
    | _ => rfl
  dropped := by
    intro value unusable
    cases value with
    | object entries =>
        rw [Column.unusable_files_object] at unusable
        cases isEntryOf_of_mem_refused unusable
    | _ => rfl
  kept := by
    intro value usable
    cases value with
    | object entries =>
        rw [Column.unusable_files_object]
        change filesField (.object (retained "files" _ _ entries)) = _
        rw [retained_refused]
        have accepted : acceptedFiles (entries.filter fun entry => (readFile entry.1 entry.2).isOk) =
            acceptedFiles entries :=
          congrArg Keyed.ofList (filterMap_filter_isOk (fun entry : String × Json => readFile entry.1 entry.2)
            (fun entry file => (entry.1, file)) entries)
        refine Prod.ext (congrArg some accepted) (List.flatMap_eq_nil_iff.2 fun entry member => ?_)
        exact complaints_eq_nil (List.forall_mem_singleton.2 (List.mem_filter.1 member).2)
    | _ => exact absurd List.mem_cons_self usable

/-- A reader of a field that is used as a whole or not at all. -/
theorem reads_whole {α : Type} {name : String} {usable : Json → Bool} {read : Json → Field α}
    (accepted : ∀ value, usable value = true → (read value).2 = [])
    (refused : ∀ value, usable value = false → (read value).1 = none ∧ (read value).2.map ShapeWarning.field = [name]) :
    Reads (.whole name usable) read where
  named := by
    intro value
    cases ok : usable value with
    | true => rw [accepted value ok, Column.unusable_whole, if_pos ok]; rfl
    | false => rw [(refused value ok).2, Column.unusable_whole, if_neg (ok ▸ Bool.false_ne_true)]; rfl
  dropped := by
    intro value unusable
    cases ok : usable value with
    | true => rw [Column.unusable_whole, if_pos ok] at unusable; cases unusable
    | false => exact (refused value ok).1
  kept := by
    intro value kept
    cases ok : usable value with
    | true =>
        rw [Column.unusable_whole, if_pos ok, Json.withoutEntries_nil]
        exact Prod.ext rfl (accepted value ok)
    | false =>
        rw [Column.unusable_whole, if_neg (ok ▸ Bool.false_ne_true)] at kept
        exact absurd List.mem_cons_self kept

theorem reads_resources : Reads .resources resourcesField := by
  refine reads_whole (fun value usable => ?_) fun value unusable => ?_
  · cases value with
    | null => rfl
    | object fields =>
        cases decoded : SystemResources.codec.decode (.object fields) with
        | ok _ => simp only [resourcesField, decoded]
        | error _ => simp [decoded, Except.isOk, Except.toBool] at usable
    | _ => cases usable
  · cases value with
    | null => cases unusable
    | object fields =>
        cases decoded : SystemResources.codec.decode (.object fields) with
        | ok _ => simp [decoded, Except.isOk, Except.toBool] at unusable
        | error _ => simp [resourcesField, decoded]
    | _ => exact ⟨rfl, rfl⟩

theorem reads_completion : Reads .completion completionField := by
  refine reads_whole (fun value usable => ?_) fun value unusable => ?_
  · cases value with
    | bool _ => rfl
    | _ => cases usable
  · cases value with
    | bool _ => cases unusable
    | _ => exact ⟨rfl, rfl⟩

end Report
end Fleet
