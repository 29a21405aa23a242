import Fleet.Bundle.Build
import Fleet.Proofs.Numeral
import Mathlib.Data.List.Nodup

namespace Fleet

/-!
# Ids of bundles

The id of a bundle begins as the slug of its name, and is numbered when another bundle has it.  Numbers are tried one
after another until an id is free, and nothing bounds the search in advance: a numbered id may be in use as well, as
that of a bundle with such a name.  But no two numbers give one id, so the ids in use cannot take those of all numbers,
and the search ends after no more numbers than there are ids in use.
-/

namespace Naming

/-- Words of small letters and digits, with single hyphens between them. -/
def WellFormed (id : String) : Prop :=
  ∃ words : List (List Char), words ≠ [] ∧
    (∀ word ∈ words, word ≠ [] ∧ ∀ c ∈ word, c.isLower = true ∨ c.isDigit = true) ∧
    id.toList = ['-'].intercalate words

/-- The search for a free id from a number on comes to its end, with an id. -/
inductive Searches (inUse : String → Prop) (base : String) : Nat → String → Prop where
  | free {n : Nat} : ¬ inUse (numbered base n) → Searches inUse base n (numbered base n)
  | taken {n : Nat} {id : String} : inUse (numbered base n) → Searches inUse base (n + 1) id → Searches inUse base n id

variable {base : String}

/-! ## The search -/

theorem toList_numbered_succ (base : String) (n : Nat) :
    (numbered base (n + 1)).toList = base.toList ++ '-' :: (toString (n + 2)).toList := by
  rw [numbered, if_neg (Nat.succ_ne_zero n), String.toList_append, String.toList_append, List.append_assoc]
  rfl

theorem numbered_injective (base : String) : Function.Injective (numbered base) := by
  have longer : ∀ n, numbered base (n + 1) ≠ numbered base 0 := by
    intro n same
    have whole := congrArg String.toList same
    rw [toList_numbered_succ] at whole
    exact List.cons_ne_nil _ _ (List.append_right_eq_self.1 whole)
  intro n m same
  cases n with
  | zero =>
      cases m with
      | zero => rfl
      | succ m => exact absurd same.symm (longer m)
  | succ n =>
      cases m with
      | zero => exact absurd same (longer n)
      | succ m =>
          have whole := congrArg String.toList same
          rw [toList_numbered_succ, toList_numbered_succ] at whole
          have digits := (List.cons.inj (List.append_cancel_left whole)).2
          have reads := Number.natural?_toString (n + 2)
          rw [digits, Number.natural?_toString] at reads
          exact congrArg Nat.succ (Nat.add_right_cancel (Option.some.inj reads)).symm

/-- Of one more numbers than there are ids in use, one gives an id that is free. -/
theorem exists_numbered_not_mem (used : List String) (base : String) : ∃ n ≤ used.length, numbered base n ∉ used := by
  by_contra allTaken
  push Not at allTaken
  have within : (List.range (used.length + 1)).map (numbered base) ⊆ used := by
    intro id member
    rcases List.mem_map.1 member with ⟨n, below, rfl⟩
    exact allTaken n (Nat.le_of_lt_succ (List.mem_range.1 below))
  have fewer := (List.nodup_range.map (numbered_injective base)).length_le_of_subset within
  rw [List.length_map, List.length_range] at fewer
  exact Nat.not_succ_le_self used.length fewer

/-- The free id has the least number that gives one. -/
theorem exists_freeId (used : List String) (base : String) :
    ∃ n ≤ used.length, freeId used base = numbered base n ∧ numbered base n ∉ used ∧
      ∀ earlier < n, numbered base earlier ∈ used := by
  rcases exists_numbered_not_mem used base with ⟨limit, below, isFree⟩
  have chosen : freeId used base = (((List.range (used.length + 1)).find? fun n =>
      !used.contains (numbered base n)).map (numbered base)).getD base :=
    congrArg (fun id => id.getD base) List.find?_map
  cases found : (List.range (used.length + 1)).find? fun n => !used.contains (numbered base n) with
  | none =>
      have taken := List.find?_eq_none.1 found limit (List.mem_range.2 (Nat.lt_succ_of_le below))
      exact absurd isFree (by simpa using taken)
  | some n =>
      rcases List.find?_range_eq_some.1 found with ⟨first, inRange, taken⟩
      rw [found] at chosen
      refine ⟨n, Nat.le_of_lt_succ (List.mem_range.1 inRange), chosen, by simpa using first, fun earlier before => ?_⟩
      simpa using taken earlier before

/-- A search ends at the first number that gives a free id. -/
theorem Searches.of_least {inUse : String → Prop} {n last : Nat} (isFree : ¬ inUse (numbered base last))
    (taken : ∀ earlier < last, inUse (numbered base earlier)) (below : n ≤ last) :
    Searches inUse base n (numbered base last) := by
  induction below using Nat.decreasingInduction with
  | self => exact .free isFree
  | of_succ n before inductionHypothesis => exact .taken (taken n before) inductionHypothesis

theorem searches_freeId (used : List String) (base : String) :
    Searches (fun id => id ∈ used) base 0 (freeId used base) ∧
      ∃ n ≤ used.length, freeId used base = numbered base n := by
  rcases exists_freeId used base with ⟨n, below, chosen, isFree, taken⟩
  exact ⟨chosen ▸ Searches.of_least isFree taken (Nat.zero_le n), n, below, chosen⟩

theorem freeId_not_mem (used : List String) (base : String) : freeId used base ∉ used := by
  rcases exists_freeId used base with ⟨n, _, chosen, isFree, _⟩
  exact chosen ▸ isFree

/-! ## The form of ids -/

theorem isLower_or_isDigit_toLower {c : Char} (alphanumeric : c.isAlphanum = true) :
    c.toLower.isLower = true ∨ c.toLower.isDigit = true := by
  cases upper : c.isUpper with
  | true =>
      refine Or.inl (Text.isLower_iff.2 ?_)
      rw [Text.toNat_toLower upper]
      rw [Text.isUpper_iff] at upper
      omega
  | false =>
      have letter : (c.isUpper || c.isLower || c.isDigit) = true := alphanumeric
      rwa [upper, Bool.false_or, Bool.or_eq_true, ← Text.toLower_eq_self upper] at letter

theorem wellFormed_slug (name : String) : WellFormed (slug name) := by
  unfold slug
  cases split : Text.pieces (fun c => !c.isAlphanum) name.toList with
  | nil =>
      have letters : "bundle".toList.all Char.isLower = true := by decide
      have solid : ∀ word ∈ ["bundle".toList], word ≠ [] ∧ ∀ c ∈ word, c.isLower = true ∨ c.isDigit = true :=
        List.forall_mem_singleton.2 ⟨by decide, fun c member => Or.inl (List.all_eq_true.1 letters c member)⟩
      exact ⟨["bundle".toList], List.cons_ne_nil _ _, solid, by decide⟩
  | cons first others =>
      refine ⟨(first :: others).map Text.lowered, by simp, ?_, by simp⟩
      intro word member
      rcases List.mem_map.1 member with ⟨piece, listed, rfl⟩
      rw [← split] at listed
      rcases List.mem_filter.1 listed with ⟨part, solid⟩
      refine ⟨by simpa [Text.lowered] using solid, fun c inWord => ?_⟩
      rcases List.mem_map.1 inWord with ⟨d, inPiece, rfl⟩
      exact isLower_or_isDigit_toLower (by simpa using (Text.exists_of_mem_splitOnP part).1 d inPiece)

/-- A number is one more word. -/
theorem WellFormed.numbered (wellFormed : WellFormed base) (n : Nat) : WellFormed (numbered base n) := by
  cases n with
  | zero => exact wellFormed
  | succ n =>
      rcases wellFormed with ⟨words, inhabited, each, whole⟩
      refine ⟨words ++ [(toString (n + 2)).toList], by simp, ?_, ?_⟩
      · rw [List.forall_mem_append, List.forall_mem_singleton]
        refine ⟨each, fun empty => ?_, fun c member => Or.inr (Number.isDigit_of_mem_toString member)⟩
        have reads := Number.natural?_toString (n + 2)
        rw [empty] at reads
        cases reads
      · rw [toList_numbered_succ, whole, Text.intercalate_concat _ _ inhabited, List.append_assoc]
        rfl

theorem wellFormed_freeId (used : List String) (name : String) : WellFormed (freeId used (slug name)) := by
  rcases exists_freeId used (slug name) with ⟨n, _, chosen, _, _⟩
  exact chosen ▸ (wellFormed_slug name).numbered n

end Naming

namespace Bundle

variable {nodeName : String} {node : Node} {groups : List (List Member)}

/-- A bundle is given the free id of its name, where the ids of earlier bundles are in use. -/
theorem id_ofGroups {used : List String} {before after : List Bundle} {bundle : Bundle}
    (split : ofGroups nodeName node used groups = before ++ bundle :: after) :
    bundle.id = Naming.freeId ((before.map Bundle.id).reverse ++ used) (Naming.slug bundle.derivedName) := by
  induction groups generalizing used before with
  | nil => simp [ofGroups] at split
  | cons members rest inductionHypothesis =>
      cases before with
      | nil =>
          obtain ⟨rfl, _⟩ := List.cons.inj split
          rfl
      | cons earlier before =>
          obtain ⟨rfl, later⟩ := List.cons.inj split
          rw [inductionHypothesis later, List.map_cons, List.reverse_cons, List.append_assoc]
          rfl

/-- No two bundles have one id, and no bundle has one that is in use. -/
theorem nodup_ids (nodeName : String) (node : Node) {used : List String} (distinct : used.Nodup)
    (groups : List (List Member)) :
    (((ofGroups nodeName node used groups).map Bundle.id).reverse ++ used).Nodup := by
  induction groups generalizing used with
  | nil => exact distinct
  | cons members rest inductionHypothesis =>
      have isFree := Naming.freeId_not_mem used (Naming.slug (nameOf members))
      have next := inductionHypothesis (List.nodup_cons.2 ⟨isFree, distinct⟩)
      rwa [ofGroups, List.map_cons, List.reverse_cons, List.append_assoc]

/-- The bundles of a node have different ids, each of words of small letters and digits with single hyphens between
them.  For each of them the search for an id that no earlier bundle has, which begins with the slug of its name,
comes to its end, and it tries no higher number than there are earlier bundles. -/
theorem ids_of_bundles (nodeName : String) (node : Node) :
    ((ofNode nodeName node).map Bundle.id).Nodup ∧ (∀ bundle ∈ ofNode nodeName node, Naming.WellFormed bundle.id) ∧
      ∀ before bundle after, ofNode nodeName node = before ++ bundle :: after →
        Naming.Searches (fun id => id ∈ before.map Bundle.id) (Naming.slug bundle.derivedName) 0 bundle.id ∧
          ∃ n ≤ before.length, bundle.id = Naming.numbered (Naming.slug bundle.derivedName) n := by
  refine ⟨?_, fun bundle listed => ?_, fun before bundle after split => ?_⟩
  · have distinct := nodup_ids nodeName node List.nodup_nil (Member.groups (Member.ofNode node))
    rwa [List.append_nil, List.nodup_reverse] at distinct
  · rcases List.append_of_mem listed with ⟨before, after, split⟩
    rw [id_ofGroups split]
    exact Naming.wellFormed_freeId _ _
  · have chosen := id_ofGroups split
    rw [List.append_nil] at chosen
    rcases Naming.searches_freeId (before.map Bundle.id).reverse (Naming.slug bundle.derivedName) with ⟨ends, least⟩
    rw [← chosen] at ends least
    simp only [List.mem_reverse, List.length_reverse, List.length_map] at ends least
    exact ⟨ends, least⟩

/-- Names of one slug, a name that is the numbered id of another one, and a name without a letter or digit. -/
theorem ids_of_bundles_lookalikes :
    let node : Node := { Node.unknown with services := ["my-app", "my-app-2", "My.App", "!"].map Service.named }
    (ofNode "n" node).map Bundle.id = ["my-app", "my-app-2", "my-app-3", "bundle"] ∧
      ∃ before third after, ofNode "n" node = before ++ third :: after ∧ third.id = "my-app-3" ∧
        Naming.WellFormed third.id ∧
        Naming.Searches (fun id => id ∈ ["my-app", "my-app-2"]) (Naming.slug third.derivedName) 0 third.id := by
  intro node
  have ids : (ofNode "n" node).map Bundle.id = ["my-app", "my-app-2"] ++ "my-app-3" :: ["bundle"] := by
    decide +kernel
  rcases ids_of_bundles "n" node with ⟨_, wellFormed, searches⟩
  rcases List.map_eq_append_iff.1 ids with ⟨before, rest, split, earlier, later⟩
  rcases List.map_eq_cons_iff.1 later with ⟨third, after, rfl, named, _⟩
  have listed : third ∈ ofNode "n" node := by simp [split]
  have ends := (searches before third after split).1
  rw [earlier] at ends
  exact ⟨ids, before, third, after, split, named, wellFormed third listed, ends⟩

end Bundle
end Fleet
