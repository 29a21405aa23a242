import Fleet.Proofs.Report.Unusable
import Fleet.Proofs.Results

namespace Fleet
namespace Report

/-!
# Cleaned documents

A document from which the unusable parts are taken out reads as before, and no warning is left.  Each field is
read by a reader that keeps to its column, so all that has to be put together are the fields of a report.  The
routes are the exception: agents send them under two names, of which one is read, and the account of the parts
does not know which.  So a document is asked to use one of them.
-/

/-- Agents send routes under one name or the other. -/
def NamesRoutesOnce (document : Json) : Prop :=
  document.field? "proxyRoutes" = none ∨ document.field? "proxy" = none

section

variable {document : Json}

theorem routesOf_of_absent (absent : document.field? "proxyRoutes" = none) :
    routesOf document = fieldOf document "proxy" (listField "proxy" readRoute) := by
  unfold routesOf
  rw [absent]
  rfl

theorem routesOf_of_single (absent : document.field? "proxy" = none) :
    routesOf document = fieldOf document "proxyRoutes" (listField "proxyRoutes" readRoute) := by
  unfold routesOf
  cases given : document.field? "proxyRoutes" with
  | none =>
      change fieldOf document "proxy" _ = _
      simp only [fieldOf, given, absent]
  | some value => rfl

/-! ## Warnings -/

theorem named_list {α : Type} (name : String) (read : Json → Except Problem α) (document : Json) :
    (fieldOf document name (listField name read)).2.map ShapeWarning.field =
      ((Column.list name read).parts document).map Part.label :=
  (reads_list name read).named_fieldOf document

/-- The routes keep to the columns of both names, whichever is used. -/
theorem named_routesOf (once : NamesRoutesOnce document) :
    (routesOf document).2.map ShapeWarning.field =
      ((Column.list "proxyRoutes" readRoute).parts document).map Part.label ++
        ((Column.list "proxy" readRoute).parts document).map Part.label := by
  rcases once with absent | absent
  · rw [routesOf_of_absent absent, Column.parts_of_absent absent]
    exact named_list "proxy" readRoute document
  · rw [routesOf_of_single absent, @Column.parts_of_absent (.list "proxy" readRoute) _ absent,
      List.map_nil, List.append_nil]
    exact named_list "proxyRoutes" readRoute document

/-- The warnings about a document name its unusable parts one by one. -/
theorem field_warnings (once : NamesRoutesOnce document) :
    (read document).2.map ShapeWarning.field = (unusable document).map Part.label := by
  cases document with
  | object fields =>
      have files : (fieldOf (.object fields) "files" filesField).2.map _ = _ := reads_files.named_fieldOf _
      have resources : (fieldOf (.object fields) "resources" resourcesField).2.map _ = _ :=
        reads_resources.named_fieldOf _
      have completion : (fieldOf (.object fields) "initialSyncComplete" completionField).2.map _ = _ :=
        reads_completion.named_fieldOf _
      simp only [read, unusable, columns, List.flatMap_cons, List.flatMap_nil, List.map_append, List.append_nil,
        List.append_assoc, named_routesOf once, named_list, files, resources, completion]
  | _ => rfl

/-! ## What is left -/

/-- A field of a cleaned document gives what it gave. -/
theorem fieldOf_cleaned {α : Type} {column : Column} {read : Json → Field α} (reads : Reads column read)
    (listed : column ∈ columns) (fields : List (String × Json)) :
    fieldOf ((Json.object fields).without (unusable (.object fields))) column.name read =
      ((fieldOf (.object fields) column.name read).1, []) :=
  reads.fieldOf_without fun _ here => Column.mem_unusable_iff listed here

theorem list_cleaned {α : Type} (name : String) (read : Json → Except Problem α)
    (listed : Column.list name read ∈ columns) (fields : List (String × Json)) :
    fieldOf ((Json.object fields).without (unusable (.object fields))) name (listField name read) =
      ((fieldOf (.object fields) name (listField name read)).1, []) :=
  fieldOf_cleaned (reads_list name read) listed fields

theorem routesOf_cleaned {fields : List (String × Json)} (once : NamesRoutesOnce (.object fields)) :
    routesOf ((Json.object fields).without (unusable (.object fields))) = ((routesOf (.object fields)).1, []) := by
  rcases once with absent | absent
  · rw [routesOf_of_absent absent, routesOf_of_absent (Json.field?_without_of_absent absent)]
    exact list_cleaned _ _ (by simp [columns]) fields
  · rw [routesOf_of_single absent, routesOf_of_single (Json.field?_without_of_absent absent)]
    exact list_cleaned _ _ (by simp [columns]) fields

/-- A document without its unusable parts reads as before, and nothing is wrong with it. -/
theorem read_cleaned (once : NamesRoutesOnce document) :
    read (document.without (unusable document)) = ((read document).1, []) := by
  cases document with
  | object fields =>
      have containers := list_cleaned "containers" readContainer (by simp [columns]) fields
      have services := list_cleaned "services" readService (by simp [columns]) fields
      have volumes := list_cleaned "volumes" readVolume (by simp [columns]) fields
      have routes := routesOf_cleaned once
      have files : fieldOf _ "files" filesField = _ := fieldOf_cleaned reads_files (by simp [columns]) fields
      have resources : fieldOf _ "resources" resourcesField = _ :=
        fieldOf_cleaned reads_resources (by simp [columns]) fields
      have completion : fieldOf _ "initialSyncComplete" completionField = _ :=
        fieldOf_cleaned reads_completion (by simp [columns]) fields
      obtain ⟨left, isObject⟩ : ∃ left, (Json.object fields).without (unusable (.object fields)) = .object left :=
        ⟨_, rfl⟩
      rw [isObject] at containers services volumes routes files resources completion ⊢
      simp only [read, containers, services, volumes, routes, files, resources, completion, List.append_nil]
      rfl
  | _ => rfl

/-- Resources that are `null` might as well not be there. -/
theorem read_without_null (null : document.field? "resources" = some .null) :
    read (document.without [.field "resources"]) = read document := by
  cases document with
  | object fields =>
      have others : ∀ name, name ≠ "resources" →
          ((Json.object fields).without [.field "resources"]).field? name = (Json.object fields).field? name := by
        intro name other
        refine Json.field?_without_of_foreign fun part member => ?_
        rw [List.mem_singleton.1 member]
        exact fun same => other (Option.some.inj same).symm
      have removed : ((Json.object fields).without [.field "resources"]).field? "resources" = none := by
        rw [Json.field?_without, if_pos List.mem_cons_self]
      obtain ⟨left, isObject⟩ : ∃ left, (Json.object fields).without [.field "resources"] = .object left := ⟨_, rfl⟩
      rw [isObject] at others removed ⊢
      have routes : routesOf (.object left) = routesOf (.object fields) := by
        unfold routesOf
        rw [others "proxyRoutes" (by decide)]
        split <;> simp (disch := decide) only [fieldOf, others]
      simp (disch := decide) only [read, routes, fieldOf, null, removed, others]
      rfl
  | _ => cases null

end

/-! ## Numbers of entries -/

/-- How many entries were taken from a field that has entries, by the names under which the field is sent. -/
def taken (report : Report) : List (String × Nat) :=
  [("containers", (report.containers.getD []).length), ("services", (report.services.getD []).length),
    ("volumes", (report.volumes.getD []).length), ("proxyRoutes", (report.proxyRoutes.getD []).length),
    ("proxy", (report.proxyRoutes.getD []).length), ("files", (report.files.getD .empty).size)]

/-- How many entries were sent. -/
def sent : Json → Nat
  | .array items => items.length
  | .object entries => entries.length
  | _ => 0

/-- Objects have different keys; a text that repeats one is read as if it gave it once. -/
def KeysDiffer : Json → Prop
  | .object entries => (entries.map Prod.fst).Nodup
  | _ => True

section

variable {fields : List (String × Json)} {name : String} {value : Json}

theorem length_filterMap_toOption {β γ : Type} (reads : β → Except Problem γ) (entries : List β) :
    (entries.filterMap fun entry => (reads entry).toOption).length =
      (entries.filter fun entry => (reads entry).isOk).length :=
  (forall₂_filter_isOk reads entries).length_eq.symm

/-- What can be read keeps its key. -/
theorem keys_readable {γ : Type} (reads : String × Json → Except Problem γ) (entries : List (String × Json)) :
    (entries.filterMap fun entry => (reads entry).toOption.map fun file => (entry.1, file)).map Prod.fst =
      (entries.filter fun entry => (reads entry).isOk).map Prod.fst := by
  induction entries with
  | nil => rfl
  | cons entry rest inductionHypothesis =>
      cases result : reads entry <;>
        simpa [result, Except.isOk, Except.toBool, Except.toOption] using inductionHypothesis

/-- The files under their keys are as many as can be read. -/
theorem size_acceptedFiles {entries : List (String × Json)} (different : (entries.map Prod.fst).Nodup) :
    (acceptedFiles entries).size = (entries.filter fun entry => (readFile entry.1 entry.2).isOk).length := by
  have keys := keys_readable (fun entry => readFile entry.1 entry.2) entries
  have lengths := congrArg List.length keys
  rw [List.length_map, List.length_map] at lengths
  rw [acceptedFiles, Keyed.size_ofList (keys ▸ different.sublist (List.filter_sublist.map _)), lengths]

/-- The unusable entries of a field are counted in its column. -/
theorem countP_unusable {column : Column} (listed : column ∈ columns)
    (given : (Json.object fields).field? column.name = some value) :
    (unusable (.object fields)).countP (Part.isEntryOf column.name) =
      (column.unusable value).countP (Part.isEntryOf column.name) := by
  rw [List.countP_eq_length_filter, List.countP_eq_length_filter, ← Column.parts_of_field? given]
  refine List.Perm.length_eq ?_
  refine (List.perm_ext_iff_of_nodup ((nodup_unusable _).filter _) ((column.nodup_parts _).filter _)).2 fun part => ?_
  rw [List.mem_filter, List.mem_filter]
  exact and_congr_left fun isEntry => Column.mem_unusable_iff listed (Part.field?_of_isEntryOf isEntry)

theorem countP_refused {β : Type} {key : β × Nat → String} {reads : β → Bool} (entries : List β) :
    (refused name key reads entries).countP (Part.isEntryOf name) = (refused name key reads entries).length :=
  List.countP_eq_length.2 fun _ => isEntryOf_of_mem_refused

theorem list_counted {α : Type} (read : Json → Except Problem α) (listed : Column.list name read ∈ columns)
    (given : (Json.object fields).field? name = some value) (usable : Part.field name ∉ unusable (.object fields)) :
    ((fieldOf (.object fields) name (listField name read)).1.getD []).length +
      (unusable (.object fields)).countP (Part.isEntryOf name) = sent value := by
  have counted := countP_unusable listed given
  have kept : Part.field name ∉ (Column.list name read).unusable value := by
    rw [← @Column.parts_of_field? (.list name read) _ _ given]
    exact fun member => usable ((Column.mem_unusable_iff listed rfl).2 member)
  change List.countP (Part.isEntryOf name) _ = List.countP (Part.isEntryOf name) _ at counted
  rw [counted, fieldOf, given]
  cases value with
  | array items =>
      rw [Column.unusable_list_array, countP_refused]
      change (items.filterMap fun item => (read item).toOption).length + _ = items.length
      rw [length_filterMap_toOption, length_filter_add_refused]
  | _ => exact absurd List.mem_cons_self kept

theorem files_counted (given : (Json.object fields).field? "files" = some value)
    (usable : Part.field "files" ∉ unusable (.object fields)) (different : KeysDiffer value) :
    ((fieldOf (.object fields) "files" filesField).1.getD .empty).size +
      (unusable (.object fields)).countP (Part.isEntryOf "files") = sent value := by
  have listed : Column.files ∈ columns := by simp [columns]
  have counted := countP_unusable listed given
  have kept : Part.field "files" ∉ Column.files.unusable value := by
    rw [← @Column.parts_of_field? .files _ _ given]
    exact fun member => usable ((Column.mem_unusable_iff listed rfl).2 member)
  change List.countP (Part.isEntryOf "files") _ = List.countP (Part.isEntryOf "files") _ at counted
  rw [counted, fieldOf, given]
  cases value with
  | object entries =>
      rw [Column.unusable_files_object, countP_refused]
      change (acceptedFiles entries).size + _ = entries.length
      rw [size_acceptedFiles different, length_filter_add_refused]
  | _ => exact absurd List.mem_cons_self kept

/-- The entries taken from a field and those left out are the entries that were sent. -/
theorem taken_add_unusable {document : Json} (once : NamesRoutesOnce document) {count : Nat}
    (member : (name, count) ∈ taken (read document).1) (given : document.field? name = some value)
    (usable : Part.field name ∉ unusable document) (different : KeysDiffer value) :
    count + (unusable document).countP (Part.isEntryOf name) = sent value := by
  cases document with
  | object fields =>
      simp only [taken, List.mem_cons, List.not_mem_nil, or_false, Prod.mk.injEq] at member
      rcases member with ⟨rfl, rfl⟩ | ⟨rfl, rfl⟩ | ⟨rfl, rfl⟩ | ⟨rfl, rfl⟩ | ⟨rfl, rfl⟩ | ⟨rfl, rfl⟩
      · exact list_counted readContainer (by simp [columns]) given usable
      · exact list_counted readService (by simp [columns]) given usable
      · exact list_counted readVolume (by simp [columns]) given usable
      · have absent := once.resolve_left (given ▸ Option.some_ne_none value)
        change ((routesOf (.object fields)).1.getD []).length + _ = _
        rw [routesOf_of_single absent]
        exact list_counted readRoute (by simp [columns]) given usable
      · have absent := once.resolve_right (given ▸ Option.some_ne_none value)
        change ((routesOf (.object fields)).1.getD []).length + _ = _
        rw [routesOf_of_absent absent]
        exact list_counted readRoute (by simp [columns]) given usable
      · exact files_counted given usable different
  | _ => cases given

end

end Report
end Fleet
