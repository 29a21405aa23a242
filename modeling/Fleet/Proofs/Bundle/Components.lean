import Fleet.Distinct
import Fleet.Proofs.Bundle.Forest
import Mathlib.Data.List.FinRange
import Mathlib.Data.List.Induction
import Mathlib.Data.List.Nodup
import Mathlib.Data.List.Pairwise

namespace Fleet

/-!
# Components

The numbers below `n` are listed group by group when each group lists those of one root, and groups come in
the order in which their roots are first met.  As a root is the least number of its group, it is met first of
all numbers of the group, at its own place.  So the roots come in their own order, each group begins with its
root, and nothing is listed twice or left out.
-/

variable {n : Nat}

/-- Lists of numbers that are the components of a relation. -/
structure Components (linked : Fin n → Fin n → Prop) (groups : List (List (Fin n))) : Prop where
  /-- Every number is in one list, and there once. -/
  once : groups.flatten.Perm (List.finRange n)
  inhabited : ∀ group ∈ groups, group ≠ []
  /-- A list goes upwards. -/
  upwards : ∀ group ∈ groups, group.Pairwise (· < ·)
  /-- Lists come in the order of their first numbers. -/
  ordered : groups.Pairwise fun earlier later => ∀ i ∈ earlier.head?, ∀ j ∈ later.head?, i < j
  /-- Two numbers are in one list just when a chain of links leads from one to the other. -/
  together : ∀ i j, (∃ group ∈ groups, i ∈ group ∧ j ∈ group) ↔ Relation.EqvGen linked i j

/-- The numbers of each root, in the order in which the roots are met. -/
def rooted (root : Fin n → Fin n) : List (List (Fin n)) :=
  (distinct ((List.finRange n).map root)).map fun top => (List.finRange n).filter fun i => root i == top

section Roots

variable {root : Fin n → Fin n} (low : ∀ i, root i ≤ i) (top : ∀ i, root (root i) = root i)
include low top

/-- The roots that are met first are the numbers that are their own roots, in their order. -/
theorem distinct_map_root {places : List (Fin n)} (upwards : places.Pairwise (· < ·))
    (closed : ∀ i ∈ places, root i ∈ places) :
    distinct (places.map root) = places.filter fun i => root i == i := by
  induction places using List.reverseRecOn with
  | nil => rfl
  | append_singleton earlier last inductionHypothesis =>
      rcases List.pairwise_append.1 upwards with ⟨earlierUpwards, _, below⟩
      have earlierClosed : ∀ i ∈ earlier, root i ∈ earlier := by
        intro i member
        refine (List.mem_append.1 (closed i (List.mem_append_left _ member))).resolve_right fun same => ?_
        have atLast := List.mem_singleton.1 same
        exact absurd (low i) (not_le.2 (atLast ▸ below i member last (List.mem_singleton.2 rfl)))
      have step : distinct ((earlier ++ [last]).map root) = addNew (distinct (earlier.map root)) (root last) := by
        rw [List.map_append]
        exact addAll_append [] _ _
      rw [step, inductionHypothesis earlierUpwards earlierClosed, List.filter_append, addNew]
      by_cases own : root last = last
      · have absent : last ∉ earlier := fun member =>
          lt_irrefl last (below last member last (List.mem_singleton.2 rfl))
        rw [own]
        simp [absent, own]
      · have present : root last ∈ earlier :=
          (List.mem_append.1 (closed last (by simp))).resolve_right fun same => own (List.mem_singleton.1 same)
        simp [present, top, own]

theorem rooted_eq :
    rooted root = ((List.finRange n).filter fun i => root i == i).map fun top =>
      (List.finRange n).filter fun i => root i == top := by
  rw [rooted, distinct_map_root low top (List.pairwise_lt_finRange n) fun i _ => List.mem_finRange (root i)]

omit low top in
theorem mem_filter_root {i j : Fin n} :
    j ∈ ((List.finRange n).filter fun k => root k == i) ↔ root j = i := by
  simp

theorem mem_rooted_iff {group : List (Fin n)} :
    group ∈ rooted root ↔ ∃ i, root i = i ∧ ((List.finRange n).filter fun j => root j == i) = group := by
  simp [rooted_eq low top]

omit top in
/-- The numbers of a root begin with the root. -/
theorem head?_filter_root {i : Fin n} (own : root i = i) :
    ((List.finRange n).filter fun j => root j == i).head? = some i := by
  have upwards := (List.pairwise_lt_finRange n).filter fun j => root j == i
  have member := mem_filter_root.2 own
  have above : ∀ j ∈ (List.finRange n).filter fun j => root j == i, i ≤ j :=
    fun j listed => mem_filter_root.1 listed ▸ low j
  cases listed : (List.finRange n).filter fun j => root j == i with
  | nil => rw [listed] at member; cases member
  | cons first rest =>
      rw [listed] at upwards member above
      rcases List.mem_cons.1 member with same | later
      · rw [List.head?_cons, same]
      · exact absurd (above first List.mem_cons_self) (not_le.2 (List.rel_of_pairwise_cons upwards later))

theorem perm_flatten_rooted : (rooted root).flatten.Perm (List.finRange n) := by
  have apart : (rooted root).Pairwise List.Disjoint := by
    rw [rooted_eq low top]
    refine List.pairwise_map.2 (((List.nodup_finRange n).filter _).imp fun {first second} different => ?_)
    intro i inFirst inSecond
    exact different ((mem_filter_root.1 inFirst).symm.trans (mem_filter_root.1 inSecond))
  have once : ∀ group ∈ rooted root, group.Nodup := by
    intro group listed
    rcases (mem_rooted_iff low top).1 listed with ⟨_, _, rfl⟩
    exact (List.nodup_finRange n).filter _
  refine (List.perm_ext_iff_of_nodup (List.nodup_flatten.2 ⟨once, apart⟩) (List.nodup_finRange n)).2 fun i => ?_
  have listed := (mem_rooted_iff low top).2 ⟨root i, top i, rfl⟩
  simp only [List.mem_finRange, iff_true]
  exact List.mem_flatten.2 ⟨_, listed, mem_filter_root.2 rfl⟩

theorem ordered_rooted :
    (rooted root).Pairwise fun earlier later => ∀ i ∈ earlier.head?, ∀ j ∈ later.head?, i < j := by
  rw [rooted_eq low top]
  refine List.pairwise_map.2 (List.Pairwise.imp_of_mem ?_ ((List.pairwise_lt_finRange n).filter _))
  intro first second firstOwn secondOwn lower i firstHead j secondHead
  rw [head?_filter_root low (by simpa using firstOwn)] at firstHead
  rw [head?_filter_root low (by simpa using secondOwn)] at secondHead
  cases firstHead
  cases secondHead
  exact lower

theorem together_rooted (i j : Fin n) :
    (∃ group ∈ rooted root, i ∈ group ∧ j ∈ group) ↔ root i = root j := by
  constructor
  · rintro ⟨group, listed, inFirst, inSecond⟩
    rcases (mem_rooted_iff low top).1 listed with ⟨_, _, rfl⟩
    exact (mem_filter_root.1 inFirst).trans (mem_filter_root.1 inSecond).symm
  · intro same
    have listed := (mem_rooted_iff low top).2 ⟨root i, top i, rfl⟩
    exact ⟨_, listed, mem_filter_root.2 rfl, mem_filter_root.2 same.symm⟩

/-- The numbers of each root are the components of the links that connect the numbers of a root. -/
theorem components_rooted {linked : Fin n → Fin n → Prop}
    (classes : ∀ i j, root i = root j ↔ Relation.EqvGen linked i j) : Components linked (rooted root) where
  once := perm_flatten_rooted low top
  inhabited group listed := by
    rcases (mem_rooted_iff low top).1 listed with ⟨i, own, rfl⟩
    exact List.ne_nil_of_mem (mem_filter_root.2 own)
  upwards group listed := by
    rcases (mem_rooted_iff low top).1 listed with ⟨_, _, rfl⟩
    exact (List.pairwise_lt_finRange n).filter _
  ordered := ordered_rooted low top
  together i j := (together_rooted low top i j).trans (classes i j)

end Roots

/-- A link leads to a number in the same list. -/
theorem Components.mem_of_linked {linked : Fin n → Fin n → Prop} {groups : List (List (Fin n))}
    (components : Components linked groups) {group : List (Fin n)} (listed : group ∈ groups) {i j : Fin n}
    (member : i ∈ group) (link : linked i j) : j ∈ group := by
  rcases (components.together i j).2 (.rel i j link) with ⟨other, otherListed, otherMember, target⟩
  have apart := (List.nodup_flatten.1 (components.once.nodup_iff.2 (List.nodup_finRange n))).2
  have symmetric : Std.Symm (@List.Disjoint (Fin n)) := ⟨fun _ _ => List.disjoint_symm⟩
  have same : group = other := by
    by_contra different
    exact apart.forall listed otherListed different member otherMember
  exact same ▸ target

/-- Components stay what they are when the numbers are counted by another name of their bound. -/
theorem Components.cast {m : Nat} (same : n = m) {linked : Fin m → Fin m → Prop} {groups : List (List (Fin n))}
    (components : Components (fun i j => linked (i.cast same) (j.cast same)) groups) :
    Components linked (groups.map (List.map (Fin.cast same))) := by
  subst same
  simpa using components

end Fleet
