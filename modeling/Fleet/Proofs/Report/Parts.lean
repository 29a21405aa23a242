import Fleet.Report.Basic
import Mathlib.Data.List.Nodup

namespace Fleet
namespace Report

/-!
# Parts of a report

What a warning names is a part of the document that an agent sent: the document itself, one of its fields, or
an entry of a field that is a list or a collection under keys.  Parts can be taken out of a document.  An entry
is found by its place, since a list may have the same entry twice, and is named by its place or its key.
-/

/-- A part of a document. -/
inductive Part where
  | root
  | field (name : String)
  /-- An entry of a field, at a place, and the key by which it is named. -/
  | entry (field : String) (place : Nat) (key : String)
  deriving DecidableEq

namespace Part

/-- The name of a part in warnings. -/
def label : Part → String
  | root => "<root>"
  | field name => name
  | entry owner _ key => ShapeWarning.entryName owner key

/-- The field that a part is, or in which it stands. -/
def field? : Part → Option String
  | root => none
  | field name => some name
  | entry owner _ _ => some owner

/-- Whether a part is an entry of a field. -/
def isEntryOf (name : String) : Part → Bool
  | root => false
  | field _ => false
  | entry owner _ _ => owner == name

theorem field?_of_isEntryOf {name : String} {part : Part} (isEntry : part.isEntryOf name = true) :
    part.field? = some name := by
  cases part with
  | root => cases isEntry
  | field _ => cases isEntry
  | entry owner place key => exact congrArg some (beq_iff_eq.1 isEntry)

end Part

/-! ## Entries -/

section Entries

variable {β : Type} {name : String} {key : β × Nat → String} {reads : β → Bool}

/-- The entries of a field that cannot be read, in their order. -/
def refused (name : String) (key : β × Nat → String) (reads : β → Bool) (entries : List β) : List Part :=
  (entries.zipIdx.filter fun entry => !reads entry.1).map fun entry => .entry name entry.2 (key entry)

/-- The entries of a field that are left when parts are taken out. -/
def retained (name : String) (key : β × Nat → String) (parts : List Part) (entries : List β) : List β :=
  (entries.zipIdx.filter fun entry => Part.entry name entry.2 (key entry) ∉ parts).map Prod.fst

theorem map_fst_filter_zipIdx (keeps : β → Bool) (entries : List β) :
    (entries.zipIdx.filter fun entry => keeps entry.1).map Prod.fst = entries.filter keeps := by
  have same := List.filter_map (f := (Prod.fst : β × Nat → β)) (p := keeps) (l := entries.zipIdx)
  rw [List.zipIdx_map_fst] at same
  exact same.symm

/-- An entry is taken out exactly when it cannot be read: no other entry has its place. -/
theorem retained_refused (entries : List β) :
    retained name key (refused name key reads entries) entries = entries.filter reads := by
  rw [← map_fst_filter_zipIdx]
  refine congrArg (List.map Prod.fst) (List.filter_congr fun entry member => ?_)
  have there := List.mem_zipIdx_iff_getElem?.1 member
  have iff : Part.entry name entry.2 (key entry) ∈ refused name key reads entries ↔ reads entry.1 = false := by
    unfold refused
    rw [List.mem_map]
    constructor
    · rintro ⟨other, otherMember, same⟩
      have refusedOther := (List.mem_filter.1 otherMember).2
      have otherThere := List.mem_zipIdx_iff_getElem?.1 (List.mem_filter.1 otherMember).1
      rw [(Part.entry.inj same).2.1, there] at otherThere
      rw [Option.some.inj otherThere]
      exact Bool.not_eq_true' _ ▸ refusedOther
    · intro unread
      exact ⟨entry, List.mem_filter.2 ⟨member, by rw [unread]; rfl⟩, rfl⟩
  rw [Bool.eq_iff_iff, decide_eq_true_iff, iff, Bool.not_eq_false]

/-- Which entries are taken out is decided by the parts of their own field. -/
theorem retained_congr {parts others : List Part}
    (same : ∀ place key, Part.entry name place key ∈ parts ↔ Part.entry name place key ∈ others)
    (entries : List β) : retained name key parts entries = retained name key others entries := by
  unfold retained
  simp only [same]

theorem retained_nil (entries : List β) : retained name key [] entries = entries := by
  simp [retained]

theorem length_filter_add_refused (entries : List β) :
    (entries.filter reads).length + (refused name key reads entries).length = entries.length := by
  have unread : (refused name key reads entries).length = (entries.filter fun entry => !reads entry).length := by
    rw [refused, List.length_map, ← map_fst_filter_zipIdx (fun entry => !reads entry), List.length_map]
  rw [unread]
  exact (List.length_eq_length_filter_add reads).symm

/-- When entries are named by what they are, their places do not show in the names. -/
theorem label_refused (shown : β → String) (entries : List β) :
    (refused name (fun entry => shown entry.1) reads entries).map Part.label =
      (entries.filter fun entry => !reads entry).map fun entry => ShapeWarning.entryName name (shown entry) := by
  rw [refused, List.map_map, ← map_fst_filter_zipIdx (fun entry => !reads entry), List.map_map]
  rfl

theorem isEntryOf_of_mem_refused {entries : List β} {part : Part} (member : part ∈ refused name key reads entries) :
    part.isEntryOf name = true := by
  rcases List.mem_map.1 member with ⟨entry, _, rfl⟩
  exact beq_self_eq_true name

theorem nodup_refused (entries : List β) : (refused name key reads entries).Nodup := by
  have places : ((entries.zipIdx.filter fun entry => !reads entry.1).map Prod.snd).Nodup := by
    have all : (entries.zipIdx.map Prod.snd).Nodup := by
      rw [List.zipIdx_map_snd]
      exact List.nodup_range'
    exact all.sublist (List.filter_sublist.map Prod.snd)
  refine List.Nodup.of_map (fun | .entry _ place _ => place | _ => 0) ?_
  rw [refused, List.map_map]
  exact places

end Entries

end Report

namespace Json

open Report

/-- The value of a field with some of its entries taken out. -/
def withoutEntries (name : String) (parts : List Part) : Json → Json
  | array items => array (retained name (fun item => toString item.2) parts items)
  | object entries => object (retained name (fun entry => entry.1.1) parts entries)
  | null => null
  | bool value => bool value
  | number value => number value
  | string value => string value

/-- A document with parts taken out of it.  Nothing is left of a document that is no object but an object without
fields. -/
def without (parts : List Part) : Json → Json
  | object fields =>
      object ((fields.filter fun field => Part.field field.1 ∉ parts).map fun field =>
        (field.1, field.2.withoutEntries field.1 parts))
  | other => if Part.root ∈ parts then object [] else other

theorem withoutEntries_congr {name : String} {parts others : List Part}
    (same : ∀ place key, Part.entry name place key ∈ parts ↔ Part.entry name place key ∈ others) (value : Json) :
    value.withoutEntries name parts = value.withoutEntries name others := by
  cases value with
  | array items => exact congrArg array (retained_congr same items)
  | object entries => exact congrArg object (retained_congr same entries)
  | _ => rfl

theorem withoutEntries_nil (name : String) (value : Json) : value.withoutEntries name [] = value := by
  cases value with
  | array items => exact congrArg array (retained_nil items)
  | object entries => exact congrArg object (retained_nil entries)
  | _ => rfl

/-- What is left of a field. -/
theorem field?_without (parts : List Part) (document : Json) (name : String) :
    (document.without parts).field? name =
      if Part.field name ∈ parts then none else (document.field? name).map (withoutEntries name parts) := by
  cases document with
  | object fields =>
      simp only [without, field?]
      induction fields with
      | nil => simp
      | cons field rest inductionHypothesis =>
          by_cases here : field.1 = name
          · subst here
            by_cases removed : Part.field field.1 ∈ parts
            · simpa [removed] using inductionHypothesis
            · simp [removed]
          · by_cases removed : Part.field field.1 ∈ parts
            · simpa [removed, here] using inductionHypothesis
            · simpa [removed, here] using inductionHypothesis
  | _ => by_cases removed : Part.root ∈ parts <;> simp [without, field?, removed]

theorem field?_without_of_absent {document : Json} {name : String} {parts : List Part}
    (absent : document.field? name = none) : (document.without parts).field? name = none := by
  rw [field?_without, absent, Option.map_none, ite_self]

/-- Parts of other fields are taken out without touching a field. -/
theorem field?_without_of_foreign {document : Json} {name : String} {parts : List Part}
    (foreign : ∀ part ∈ parts, part.field? ≠ some name) : (document.without parts).field? name = document.field? name := by
  have noEntry : ∀ place key, Part.entry name place key ∈ parts ↔ Part.entry name place key ∈ ([] : List Part) :=
    fun place key => ⟨fun member => absurd rfl (foreign _ member), fun member => absurd member List.not_mem_nil⟩
  have nothing : ∀ value : Json, value.withoutEntries name parts = value := by
    intro value
    rw [withoutEntries_congr noEntry, withoutEntries_nil]
  rw [field?_without, if_neg fun member => foreign _ member rfl]
  cases document.field? name with
  | none => rfl
  | some value => exact congrArg some (nothing value)

end Json
end Fleet
