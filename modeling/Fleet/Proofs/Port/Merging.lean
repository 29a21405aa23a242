import Fleet.Port.Basic
import Mathlib.Data.List.Induction

namespace Fleet
namespace PortMapping

/-!
# Merged lists of ports

A mapping is merged into a list by its identity alone: it is added if the list has no mapping of that identity.  So a
merged list has the identities of both lists, and nothing is lost if they have none in common.  What the second list
repeats, of the first one or of itself, makes no difference, and lists can be merged in parts.
-/

/-- The ports and the protocol by which mappings are told apart. -/
abbrev Identity := Option UInt16 × Option UInt16 × String

variable {ports extra : List PortMapping} {key : Identity}

/-- A mapping of an identity that a list has is not added to it. -/
theorem mergeOne_of_mem {mapping : PortMapping} (known : mapping.identity ∈ ports.map identity) :
    mergeOne ports mapping = ports := by
  rcases List.mem_map.1 known with ⟨other, listed, same⟩
  have found : (other.identity == mapping.identity) = true := beq_iff_eq.2 same
  exact if_pos (List.any_eq_true.2 ⟨other, listed, found⟩)

theorem mergeOne_of_not_mem {mapping : PortMapping} (fresh : mapping.identity ∉ ports.map identity) :
    mergeOne ports mapping = ports ++ [mapping] := by
  refine if_neg fun known => ?_
  rcases List.any_eq_true.1 known with ⟨other, listed, same⟩
  exact fresh (List.mem_map.2 ⟨other, listed, beq_iff_eq.1 same⟩)

theorem mem_identity_mergeOne {mapping : PortMapping} :
    key ∈ (mergeOne ports mapping).map identity ↔ key ∈ ports.map identity ∨ key = mapping.identity := by
  by_cases known : mapping.identity ∈ ports.map identity
  · rw [mergeOne_of_mem known]
    exact ⟨Or.inl, fun given => given.elim id fun isKey => isKey ▸ known⟩
  · rw [mergeOne_of_not_mem known, List.map_append, List.mem_append, List.map_singleton, List.mem_singleton]

/-- Merging lists keeps every port of both and adds none. -/
theorem mem_identity_merge :
    key ∈ (merge ports extra).map identity ↔ key ∈ ports.map identity ∨ key ∈ extra.map identity := by
  induction extra generalizing ports with
  | nil => simp
  | cons mapping rest inductionHypothesis =>
      have merged : merge ports (mapping :: rest) = merge (mergeOne ports mapping) rest := rfl
      rw [merged, inductionHypothesis, mem_identity_mergeOne, List.map_cons, List.mem_cons, or_assoc]

theorem mem_merge {mapping : PortMapping} (member : mapping ∈ merge ports extra) :
    mapping ∈ ports ∨ mapping ∈ extra := by
  induction extra generalizing ports with
  | nil => exact Or.inl member
  | cons first rest inductionHypothesis =>
      rcases @inductionHypothesis (mergeOne ports first) member with here | later
      · unfold mergeOne at here
        split at here
        · exact Or.inl here
        · refine (List.mem_append.1 here).imp_right fun single => ?_
          rw [List.mem_singleton.1 single]
          exact List.mem_cons_self
      · exact Or.inr (List.mem_cons_of_mem _ later)

/-- Mappings of different identities are merged without a loss. -/
theorem merge_eq_append {into extra : List PortMapping} (once : ((into ++ extra).map identity).Nodup) :
    merge into extra = into ++ extra := by
  induction extra generalizing into with
  | nil => exact (List.append_nil into).symm
  | cons mapping rest inductionHypothesis =>
      have fresh : mapping.identity ∉ into.map identity := by
        rw [List.map_append, List.nodup_append] at once
        exact fun known => once.2.2 _ known _ (List.mem_map_of_mem List.mem_cons_self) rfl
      change merge (mergeOne into mapping) rest = _
      rw [mergeOne_of_not_mem fresh, inductionHypothesis (by rwa [List.append_assoc]), List.append_assoc]
      rfl

theorem merge_assoc (first second third : List PortMapping) :
    merge (merge first second) third = merge first (merge second third) := by
  induction third using List.reverseRecOn with
  | nil => rfl
  | append_singleton rest mapping inductionHypothesis =>
      have last (into : List PortMapping) : merge into (rest ++ [mapping]) = mergeOne (merge into rest) mapping :=
        merge_append into rest [mapping]
      rw [last, last, inductionHypothesis]
      by_cases known : mapping.identity ∈ (merge second rest).map identity
      · rw [mergeOne_of_mem known]
        exact mergeOne_of_mem (mem_identity_merge.2 (Or.inr known))
      · rw [mergeOne_of_not_mem known]
        exact (merge_append first (merge second rest) [mapping]).symm

/-- Repetitions in a list make no difference when it is merged. -/
theorem merge_merge_nil (into extra : List PortMapping) : merge into (merge [] extra) = merge into extra := by
  rw [← merge_assoc, merge_nil]

end PortMapping
end Fleet
