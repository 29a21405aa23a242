import Fleet.Keyed
import Mathlib.Data.List.Induction

namespace Fleet
namespace Keyed

variable {α β : Type}

/-!
# What a collection holds under its keys

A collection is a list of entries whose keys strictly increase.  Two facts follow from the order and carry
everything else: a key occurs once, so that looking it up finds the only entry it has, and the entries are
determined by what the keys hold, so that collections are equal as soon as all look-ups are.  A walk over the values
finds the one with the least key among those that fit.
-/

/-! ## Look-up and entries -/

/-- Two entries of one key are one entry. -/
theorem eq_of_same_key {map : Keyed α} {first second : String × α} (firstMember : first ∈ map.entries)
    (secondMember : second ∈ map.entries) (sameKey : first.1 = second.1) : first = second := by
  rcases List.getElem_of_mem firstMember with ⟨i, iBound, rfl⟩
  rcases List.getElem_of_mem secondMember with ⟨j, jBound, rfl⟩
  have ordered := List.pairwise_iff_getElem.1 map.increasing
  rcases Nat.lt_trichotomy i j with before | same | after
  · exact absurd (sameKey ▸ ordered i j iBound jBound before) (String.lt_irrefl _)
  · subst same
    rfl
  · exact absurd (sameKey ▸ ordered j i jBound iBound after) (String.lt_irrefl _)

theorem get?_eq_some_iff {map : Keyed α} {key : String} {value : α} :
    map.get? key = some value ↔ (key, value) ∈ map.entries := by
  unfold get?
  constructor
  · intro found
    rcases Option.map_eq_some_iff.1 found with ⟨entry, entryFound, rfl⟩
    have entryKey : entry.1 = key := by simpa using List.find?_some entryFound
    exact entryKey ▸ List.mem_of_find?_eq_some entryFound
  · intro member
    cases found : map.entries.find? fun entry => entry.1 == key with
    | none =>
        have absent := List.find?_eq_none.1 found (key, value) member
        simp at absent
    | some entry =>
        have entryKey : entry.1 = key := by simpa using List.find?_some found
        rw [eq_of_same_key (List.mem_of_find?_eq_some found) member entryKey]
        rfl

/-- Collections are equal when all keys hold the same in both. -/
theorem ext_get? {left right : Keyed α} (same : ∀ key, left.get? key = right.get? key) :
    left = right := by
  have members : ∀ entry, entry ∈ left.entries ↔ entry ∈ right.entries := by
    intro entry
    have held : ∀ map : Keyed α, map.get? entry.1 = some entry.2 ↔ entry ∈ map.entries :=
      fun _ => get?_eq_some_iff
    rw [← held left, ← held right, same]
  have nodup : ∀ map : Keyed α, map.entries.Nodup := by
    intro map
    refine map.increasing.imp ?_
    intro before after below equal
    exact String.lt_irrefl after.1 (equal ▸ below)
  have permuted := (List.perm_ext_iff_of_nodup (nodup left) (nodup right)).2 members
  refine ext (permuted.eq_of_pairwise ?_ left.increasing right.increasing)
  intro first second _ _ before after
  exact absurd after (String.lt_asymm before)

theorem mem_values_iff {map : Keyed α} {value : α} :
    value ∈ map.values ↔ ∃ key, map.get? key = some value := by
  unfold values
  constructor
  · intro member
    rcases List.mem_map.1 member with ⟨entry, entryMember, rfl⟩
    exact ⟨entry.1, get?_eq_some_iff.2 entryMember⟩
  · rintro ⟨key, found⟩
    exact List.mem_map.2 ⟨(key, value), get?_eq_some_iff.1 found, rfl⟩

theorem get?_eq_none_iff {map : Keyed α} {key : String} : map.get? key = none ↔ key ∉ map.keys := by
  unfold get? keys
  rw [Option.map_eq_none_iff, List.find?_eq_none, List.mem_map]
  constructor
  · rintro absent ⟨entry, member, rfl⟩
    exact absent entry member (beq_self_eq_true entry.1)
  · intro absent entry member atKey
    exact absent ⟨entry, member, beq_iff_eq.1 atKey⟩

/-! ## Look-up after an operation -/

@[simp] theorem get?_mapValues (f : α → β) (map : Keyed α) (key : String) :
    (map.mapValues f).get? key = (map.get? key).map f := by
  unfold get? mapValues
  rw [List.find?_map]
  simp [Function.comp_def]

theorem get?_erase (map : Keyed α) (key other : String) :
    (map.erase key).get? other = if key = other then none else map.get? other := by
  unfold get? erase
  rw [List.find?_filter]
  by_cases same : key = other
  · subst same
    simp
  · rw [if_neg same]
    congr 2
    funext entry
    by_cases atOther : entry.1 = other
    · have notKey : entry.1 ≠ key := fun atKey => same (atKey.symm.trans atOther)
      simp [atOther, Ne.symm same]
    · simp [atOther]

theorem contains_eq_false_iff {map : Keyed α} {key : String} :
    map.contains key = false ↔ map.get? key = none := by
  simp [contains]

/-- Changing the values after one was put under a key. -/
theorem mapValues_insert (f : α → β) (map : Keyed α) (key : String) (value : α) :
    (map.insert key value).mapValues f = (map.mapValues f).insert key (f value) := by
  apply ext_get?
  intro other
  rw [get?_mapValues, get?_insert, get?_insert, get?_mapValues]
  split <;> rfl

theorem mapValues_mapValues {γ : Type} (g : β → γ) (f : α → β) (map : Keyed α) :
    (map.mapValues f).mapValues g = map.mapValues fun value => g (f value) := by
  apply ext_get?
  intro key
  simp [Function.comp_def]

theorem mem_values_insert {map : Keyed α} {key : String} {value other : α}
    (member : other ∈ (map.insert key value).values) : other = value ∨ other ∈ map.values := by
  rcases mem_values_iff.1 member with ⟨place, found⟩
  rw [get?_insert] at found
  by_cases same : key = place
  · rw [if_pos same] at found
    exact Or.inl (Option.some.inj found).symm
  · rw [if_neg same] at found
    exact Or.inr (mem_values_iff.2 ⟨place, found⟩)

theorem mem_keys_insert {map : Keyed α} {key other : String} {value : α} :
    other ∈ (map.insert key value).keys ↔ other = key ∨ other ∈ map.keys := by
  have held : ∀ map : Keyed α, other ∈ map.keys ↔ map.get? other ≠ none := fun map => by
    rw [Ne, get?_eq_none_iff, Decidable.not_not]
  rw [held, held, get?_insert]
  by_cases same : key = other
  · simp [same]
  · simp [same, eq_comm]

/-- The keys of a collected list are those of the list. -/
theorem mem_keys_ofList {entries : List (String × α)} {key : String} :
    key ∈ (ofList entries).keys ↔ key ∈ entries.map Prod.fst := by
  have collected : ∀ map : Keyed α, key ∈ (entries.foldl (fun map entry => map.insert entry.1 entry.2) map).keys ↔
      key ∈ map.keys ∨ key ∈ entries.map Prod.fst := by
    induction entries with
    | nil => simp
    | cons entry rest inductionHypothesis =>
        intro map
        rw [List.foldl_cons, inductionHypothesis, mem_keys_insert, List.map_cons, List.mem_cons, or_comm (a := key = _),
          or_assoc]
  exact (collected empty).trans (or_iff_right List.not_mem_nil)

theorem ofList_append_singleton (entries : List (String × α)) (last : String × α) :
    ofList (entries ++ [last]) = (ofList entries).insert last.1 last.2 := by
  rw [ofList, List.foldl_append]
  rfl

theorem mem_of_mem_values_ofList {entries : List (String × α)} {value : α} (member : value ∈ (ofList entries).values) :
    value ∈ entries.map Prod.snd := by
  induction entries using List.reverseRecOn with
  | nil => cases member
  | append_singleton before entry inductionHypothesis =>
      rw [ofList_append_singleton] at member
      rw [List.map_append, List.mem_append]
      rcases mem_values_insert member with rfl | earlier
      · exact .inr (List.mem_singleton_self _)
      · exact .inl (inductionHypothesis earlier)

/-- Nothing is lost of a list whose keys are different. -/
theorem size_ofList {entries : List (String × α)} (different : (entries.map Prod.fst).Nodup) :
    (ofList entries).size = entries.length := by
  have keys : (ofList entries).keys.Nodup :=
    List.pairwise_map.2 ((ofList entries).increasing.imp String.ne_of_lt)
  have same : (ofList entries).keys.Perm (entries.map Prod.fst) :=
    (List.perm_ext_iff_of_nodup keys different).2 fun _ => mem_keys_ofList
  calc
    (ofList entries).size = (ofList entries).keys.length := (List.length_map _).symm
    _ = (entries.map Prod.fst).length := same.length_eq
    _ = entries.length := List.length_map _

theorem place_of_last {key : String} (value : α) {entries : List (String × α)}
    (last : ∀ entry ∈ entries, entry.1 < key) : place key value entries = entries ++ [(key, value)] := by
  induction entries with
  | nil => rfl
  | cons head rest inductionHypothesis =>
      rcases List.forall_mem_cons.1 last with ⟨below, others⟩
      rw [place, if_neg (String.lt_asymm below), if_neg (String.ne_of_lt below).symm, inductionHypothesis others]
      rfl

/-- Entries that stand in the order of their keys are collected as they are. -/
theorem entries_ofList {entries : List (String × α)}
    (increasing : entries.Pairwise fun left right => left.1 < right.1) : (ofList entries).entries = entries := by
  induction entries using List.reverseRecOn with
  | nil => rfl
  | append_singleton before entry inductionHypothesis =>
      rcases List.pairwise_append.1 increasing with ⟨beforeIncreasing, _, below⟩
      have last : ∀ other ∈ before, other.1 < entry.1 := fun other member => below other member entry (by simp)
      rw [ofList_append_singleton]
      change place entry.1 entry.2 (ofList before).entries = _
      rw [inductionHypothesis beforeIncreasing, place_of_last entry.2 last]

theorem ofList_entries (map : Keyed α) : ofList map.entries = map :=
  ext (entries_ofList map.increasing)

/-- What a collected list holds under its keys, if these are different. -/
theorem get?_ofList_eq_some_iff {entries : List (String × α)} (different : (entries.map Prod.fst).Nodup) {key : String}
    {value : α} : (ofList entries).get? key = some value ↔ (key, value) ∈ entries := by
  induction entries using List.reverseRecOn with
  | nil => simp [ofList, empty, get?]
  | append_singleton before entry inductionHypothesis =>
      rw [List.map_append, List.nodup_append] at different
      rcases different with ⟨beforeDifferent, _, apart⟩
      rw [ofList_append_singleton, get?_insert, List.mem_append, List.mem_singleton]
      by_cases same : entry.1 = key
      · have absent : (key, value) ∉ before := fun member =>
          apart key (List.mem_map_of_mem member) entry.1 (by simp) same.symm
        rw [if_pos same, Option.some_inj, or_iff_right absent, Prod.ext_iff]
        exact ⟨fun found => ⟨same.symm, found.symm⟩, fun found => found.2.symm⟩
      · rw [if_neg same, inductionHypothesis beforeDifferent, or_iff_left]
        rintro rfl
        exact same rfl

/-- Entries under different keys may be collected in any order. -/
theorem ofList_eq_of_perm {entries others : List (String × α)} (order : entries.Perm others)
    (different : (others.map Prod.fst).Nodup) : ofList entries = ofList others := by
  refine ext_get? fun key => Option.ext fun value => ?_
  rw [get?_ofList_eq_some_iff different, get?_ofList_eq_some_iff ((order.map Prod.fst).nodup_iff.2 different),
    order.mem_iff]

/-- A value under a new key stands somewhere among the others, whose order stays. -/
theorem place_of_fresh {key : String} (value : α) {entries : List (String × α)}
    (fresh : ∀ entry ∈ entries, entry.1 ≠ key) :
    ∃ before after, entries = before ++ after ∧
      place key value entries = before ++ (key, value) :: after := by
  induction entries with
  | nil => exact ⟨[], [], rfl, rfl⟩
  | cons head rest inductionHypothesis =>
      rw [place]
      by_cases below : key < head.1
      · rw [if_pos below]
        exact ⟨[], head :: rest, rfl, rfl⟩
      · rw [if_neg below, if_neg fun same => fresh head List.mem_cons_self same.symm]
        rcases inductionHypothesis fun entry member => fresh entry (List.mem_cons_of_mem _ member) with
          ⟨before, after, split, placed⟩
        exact ⟨head :: before, after, by rw [split]; rfl, by rw [placed]; rfl⟩

theorem values_insert_of_fresh {map : Keyed α} {key : String} (value : α) (fresh : map.get? key = none) :
    ∃ before after, map.values = before ++ after ∧
      (map.insert key value).values = before ++ value :: after := by
  have absent : ∀ entry ∈ map.entries, entry.1 ≠ key := by
    intro entry member atKey
    have found : map.get? key = some entry.2 := get?_eq_some_iff.2 (atKey ▸ member)
    rw [fresh] at found
    cases found
  rcases place_of_fresh value absent with ⟨before, after, split, placed⟩
  refine ⟨before.map Prod.snd, after.map Prod.snd, ?_, ?_⟩
  · rw [values, split, List.map_append]
  · change (place key value map.entries).map Prod.snd = _
    rw [placed, List.map_append, List.map_cons]

/-! ## The first value that fits -/

/-- A value that fits, under the least key that holds one. -/
def First (map : Keyed α) (Fits : α → Prop) (value : α) : Prop :=
  ∃ key, map.get? key = some value ∧ Fits value ∧ ∀ other held, map.get? other = some held → Fits held → key ≤ other

variable {map : Keyed α} {Fits : α → Prop} {value : α}

theorem First.mem_values (first : map.First Fits value) : value ∈ map.values := by
  rcases first with ⟨key, here, _, _⟩
  exact mem_values_iff.2 ⟨key, here⟩

theorem First.fits (first : map.First Fits value) : Fits value := by
  rcases first with ⟨_, _, holds, _⟩
  exact holds

theorem First.unique {other : α} (first : map.First Fits value) (second : map.First Fits other) : value = other := by
  rcases first with ⟨key, here, fitsHere, least⟩
  rcases second with ⟨otherKey, there, fitsThere, otherLeast⟩
  obtain rfl : key = otherKey :=
    String.le_antisymm (least otherKey other there fitsThere) (otherLeast key value here fitsHere)
  exact Option.some.inj (here.symm.trans there)

/-- The first value that fits is also the first among fewer ones that it is one of. -/
theorem First.narrow {Narrower : α → Prop} (first : map.First Fits value) (holds : Narrower value)
    (wider : ∀ other, Narrower other → Fits other) : map.First Narrower value := by
  rcases first with ⟨key, here, _, least⟩
  exact ⟨key, here, holds, fun other held there narrow => least other held there (wider held narrow)⟩

theorem first_of_find?_values {decides : α → Bool} (found : map.values.find? decides = some value) :
    map.First (decides · = true) value := by
  unfold values at found
  rw [List.find?_map] at found
  rcases Option.map_eq_some_iff.1 found with ⟨entry, entryFound, rfl⟩
  rcases List.find?_eq_some_iff_append.1 entryFound with ⟨holds, before, after, split, passed⟩
  have here : map.get? entry.1 = some entry.2 := get?_eq_some_iff.2 (List.mem_of_find?_eq_some entryFound)
  refine ⟨entry.1, here, holds, fun other held there holdsThere => ?_⟩
  have member : (other, held) ∈ map.entries := get?_eq_some_iff.1 there
  have ordered := map.increasing
  rw [split] at member ordered
  rcases List.mem_append.1 member with early | late
  · have unfit := passed _ early
    rw [Function.comp_apply, holdsThere] at unfit
    cases unfit
  · rcases List.mem_cons.1 late with same | later
    · exact same ▸ String.le_refl entry.1
    · have below := (List.pairwise_cons.1 (List.pairwise_append.1 ordered).2.1).1 _ later
      exact String.not_lt.1 (String.lt_asymm below)

theorem find?_values_eq_some_iff {decides : α → Bool} :
    map.values.find? decides = some value ↔ map.First (decides · = true) value := by
  refine ⟨first_of_find?_values, fun first => ?_⟩
  cases found : map.values.find? decides with
  | none => exact absurd first.fits (List.find?_eq_none.1 found value first.mem_values)
  | some other => rw [first.unique (first_of_find?_values found)]

end Keyed
end Fleet
