import Fleet.Json.Basic
import Mathlib.Data.List.Forall2

namespace Fleet
namespace Json

/-!
# Documents that differ in the order of fields

The fields of an object stand in some order, which says nothing.  What is written in one order may arrive in
another, in the document itself and in every object inside it.  A value without anything inside arrives as it was.
-/

/-- The documents differ at most in the order of the fields of their objects, at any depth. -/
inductive Alike : Json → Json → Prop where
  | same (document : Json) : Alike document document
  | array {items others : List Json} (each : List.Forall₂ Alike items others) : Alike (.array items) (.array others)
  | object {fields moved others : List (String × Json)} (order : fields.Perm moved)
      (names : moved.map Prod.fst = others.map Prod.fst)
      (values : List.Forall₂ Alike (moved.map Prod.snd) (others.map Prod.snd)) : Alike (.object fields) (.object others)

/-- Fields of one name, with values that are alike. -/
def AlikeField (field other : String × Json) : Prop :=
  field.1 = other.1 ∧ Alike field.2 other.2

/-- A value with no other one inside. -/
def IsLeaf : Json → Prop
  | .array _ | .object _ => False
  | _ => True

variable {given document : Json}

/-! ## Values with others inside -/

theorem Alike.exists_items {others : List Json} (alike : given.Alike (.array others)) :
    ∃ items, given = .array items ∧ List.Forall₂ Alike items others := by
  cases alike with
  | same => exact ⟨others, rfl, List.forall₂_same.2 fun item _ => .same item⟩
  | array each => exact ⟨_, rfl, each⟩

theorem forall₂_alikeField {moved others : List (String × Json)} (names : moved.map Prod.fst = others.map Prod.fst)
    (values : List.Forall₂ Alike (moved.map Prod.snd) (others.map Prod.snd)) :
    List.Forall₂ AlikeField moved others := by
  induction moved generalizing others with
  | nil =>
      cases others with
      | nil => exact .nil
      | cons _ _ => cases names
  | cons field rest inductionHypothesis =>
      cases others with
      | nil => cases names
      | cons other more =>
          rcases List.cons.inj names with ⟨name, laterNames⟩
          cases values with
          | cons value laterValues => exact .cons ⟨name, value⟩ (inductionHypothesis laterNames laterValues)

theorem Alike.exists_fields {others : List (String × Json)} (alike : given.Alike (.object others)) :
    ∃ fields moved, given = .object fields ∧ fields.Perm moved ∧ List.Forall₂ AlikeField moved others := by
  cases alike with
  | same => exact ⟨others, others, rfl, .refl _, List.forall₂_same.2 fun field _ => ⟨rfl, .same field.2⟩⟩
  | object order names values => exact ⟨_, _, rfl, order, forall₂_alikeField names values⟩

theorem keys_eq_of_alike {moved others : List (String × Json)} (alike : List.Forall₂ AlikeField moved others) :
    moved.map Prod.fst = others.map Prod.fst := by
  induction alike with
  | nil => rfl
  | cons first _ inductionHypothesis => rw [List.map_cons, List.map_cons, first.1, inductionHypothesis]

/-! ## Values with nothing inside -/

theorem Alike.eq_of_isLeaf (alike : given.Alike document) (leaf : document.IsLeaf) : given = document := by
  cases alike with
  | same => rfl
  | array => cases leaf
  | object => cases leaf

theorem Alike.ne_null (alike : given.Alike document) (present : document ≠ .null) : given ≠ .null := by
  rintro rfl
  cases alike
  exact present rfl

theorem Alike.eq_array {others : List Json} (alike : given.Alike (.array others))
    (leaves : ∀ item ∈ others, item.IsLeaf) : given = .array others := by
  rcases alike.exists_items with ⟨items, rfl, each⟩
  clear alike
  congr 1
  induction each with
  | nil => rfl
  | cons first _ inductionHypothesis =>
      rcases List.forall_mem_cons.1 leaves with ⟨leaf, others⟩
      rw [first.eq_of_isLeaf leaf, inductionHypothesis others]

/-- Fields with nothing inside their values are found as they are, in some order. -/
theorem Alike.exists_perm {others : List (String × Json)} (alike : given.Alike (.object others))
    (leaves : ∀ field ∈ others, field.2.IsLeaf) : ∃ fields, given = .object fields ∧ fields.Perm others := by
  rcases alike.exists_fields with ⟨fields, moved, rfl, order, each⟩
  refine ⟨fields, rfl, ?_⟩
  have same : moved = others := by
    clear alike order
    induction each with
    | nil => rfl
    | cons first _ inductionHypothesis =>
        rcases List.forall_mem_cons.1 leaves with ⟨leaf, others⟩
        rw [inductionHypothesis others, Prod.ext first.1 (first.2.eq_of_isLeaf leaf)]
  exact same ▸ order

/-! ## Lists of values that are read -/

section Lists

variable {ε α : Type} {read : Json → Except ε α} {write : α → Json} {items : List Json} {entries : List α}

/-- If every written value is read whichever way it arrives, then so are the items of a list one by one. -/
theorem forall₂_read (each : ∀ entry ∈ entries, ∀ given : Json, given.Alike (write entry) → read given = .ok entry)
    (alike : List.Forall₂ Alike items (entries.map write)) :
    List.Forall₂ (fun item entry => read item = .ok entry) items entries := by
  induction entries generalizing items with
  | nil =>
      cases alike
      exact .nil
  | cons entry rest inductionHypothesis =>
      rcases List.forall_mem_cons.1 each with ⟨first, later⟩
      cases alike with
      | cons here others => exact .cons (first _ here) (inductionHypothesis later others)

variable (reads : List.Forall₂ (fun item entry => read item = .ok entry) items entries)
include reads

/-- Nothing is passed over. -/
theorem filterMap_read : items.filterMap (fun item => (read item).toOption) = entries := by
  induction reads with
  | nil => rfl
  | cons found _ inductionHypothesis =>
      rw [List.filterMap_cons, found, inductionHypothesis]
      rfl

theorem isOk_read {item : Json} (member : item ∈ items) : (read item).isOk = true := by
  induction reads with
  | nil => cases member
  | cons found _ inductionHypothesis =>
      rcases List.mem_cons.1 member with rfl | later
      · rw [found]
        rfl
      · exact inductionHypothesis later

end Lists

end Json
end Fleet
