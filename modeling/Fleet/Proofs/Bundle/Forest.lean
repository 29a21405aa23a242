import Fleet.Bundle.Forest
import Mathlib.Logic.Relation
import Mathlib.Order.Fin.Basic

namespace Fleet
namespace Forest

/-!
# The groups of a forest

All that counts about a forest is where its roots are: two numbers are in one group when they have the same
root.  Letting a number point to its own root changes no root, and so looking up a root does not, however far
the way to it is shortened.  Letting a root point to a lower one puts their groups together.  So after any number
of unions, two numbers are in one group just when a chain of the united pairs leads from one to the other.
-/

variable {n : Nat}

theorem parent_point (forest : Forest n) {i target : Fin n} (below : target ≤ i) (j : Fin n) :
    (forest.point i target below).parent[j] = if i = j then target else forest.parent[j] := by
  simp only [point, Fin.getElem_fin, Vector.getElem_set, Fin.ext_iff]

/-! ## Shorter ways -/

/-- A number that points to its root right away has the same root as before, and so has every other. -/
theorem root_point_root (forest : Forest n) (i : Fin n) (below : forest.root i ≤ i) (j : Fin n) :
    (forest.point i (forest.root i) below).root j = forest.root j := by
  symm
  apply eq_root
  · intro k own
    rw [parent_point] at own
    split at own
    · next same => rw [← same, own, same]
    · exact root_of_parent_eq own
  · intro k
    rw [parent_point]
    split
    · next same => rw [← same, root_root]
    · exact root_parent forest k

theorem root_compress {forest : Forest n} {root i : Fin n} (found : root = forest.root i) (j : Fin n) :
    (forest.compress root i).root j = forest.root j := by
  fun_induction compress forest root i with
  | case1 forest i next onTheWay inductionHypothesis =>
      subst found
      have kept := root_point_root forest i onTheWay.1
      rw [inductionHypothesis ((root_parent forest i).symm.trans (kept _).symm), kept]
  | case2 forest i next done => rfl

@[simp] theorem find_fst (forest : Forest n) (i : Fin n) : (forest.find i).1 = forest.root i :=
  rfl

@[simp] theorem root_find (forest : Forest n) (i j : Fin n) : (forest.find i).2.root j = forest.root j :=
  root_compress rfl j

/-! ## Unions -/

/-- When a root points to a lower one, everything that had the higher root gets the lower one. -/
theorem root_point {forest : Forest n} {low high : Fin n} (lower : low < high) (lowRoot : forest.root low = low)
    (highRoot : forest.root high = high) (j : Fin n) :
    (forest.point high low (Nat.le_of_lt lower)).root j = if forest.root j = high then low else forest.root j := by
  symm
  refine @eq_root n _ (fun j => if forest.root j = high then low else forest.root j) ?_ ?_ j
  · intro k own
    rw [parent_point] at own
    split at own
    · next same => exact absurd (own.trans same.symm) (Fin.ne_of_lt lower)
    · next other => rw [root_of_parent_eq own, if_neg (Ne.symm other)]
  · intro k
    rw [parent_point]
    split
    · next same => rw [← same, lowRoot, highRoot, if_pos rfl, if_neg (Fin.ne_of_lt lower)]
    · rw [root_parent]

/-- A union puts two groups together under the lower one of their roots. -/
theorem root_union (forest : Forest n) (a b j : Fin n) :
    (forest.union a b).root j =
      if forest.root j = forest.root a ∨ forest.root j = forest.root b then min (forest.root a) (forest.root b)
      else forest.root j := by
  have sameRoots : ∀ k, ((forest.find a).2.find b).2.root k = forest.root k := by simp
  have leftRoot := (sameRoots (forest.root a)).trans (forest.root_root a)
  have rightRoot := (sameRoots (forest.root b)).trans (forest.root_root b)
  unfold union
  simp only [find_fst, root_find]
  split
  · next lower =>
      rw [root_point lower leftRoot rightRoot, sameRoots, min_eq_left (Fin.le_of_lt lower)]
      grind
  · split
    · next higher =>
        rw [root_point higher rightRoot leftRoot, sameRoots, min_eq_right (Fin.le_of_lt higher)]
        grind
    · next notLower notHigher =>
        have same : forest.root a = forest.root b := le_antisymm (not_lt.1 notHigher) (not_lt.1 notLower)
        rw [sameRoots, same, min_self]
        grind

theorem root_union_eq_iff (forest : Forest n) (a b i j : Fin n) :
    (forest.union a b).root i = (forest.union a b).root j ↔
      forest.root i = forest.root j ∨ (forest.root i = forest.root a ∧ forest.root j = forest.root b) ∨
        (forest.root i = forest.root b ∧ forest.root j = forest.root a) := by
  rw [root_union, root_union]
  rcases le_total (forest.root a) (forest.root b) with below | below
  · rw [min_eq_left below]
    grind
  · rw [min_eq_right below]
    grind

/-! ## Groups -/

/-- What is the same along every link is the same along every chain of links. -/
theorem same_of_eqvGen {α : Type} {linked same : α → α → Prop} (equivalence : Equivalence same)
    (along : ∀ a b, linked a b → same a b) {i j : α} (chain : Relation.EqvGen linked i j) : same i j :=
  equivalence.eqvGen_iff.1 (Relation.EqvGen.mono along i j chain)

/-- The groups of a forest are those of the numbers that a chain of links connects. -/
def Groups (forest : Forest n) (linked : Fin n → Fin n → Prop) : Prop :=
  ∀ i j, forest.root i = forest.root j ↔ Relation.EqvGen linked i j

theorem groups_discrete (n : Nat) : (discrete n).Groups fun _ _ => False := by
  have alone : ∀ i, (discrete n).root i = i := fun i => root_of_parent_eq (by simp [discrete])
  intro i j
  rw [alone, alone]
  constructor
  · rintro rfl
    exact .refl i
  · exact same_of_eqvGen eq_equivalence fun _ _ never => never.elim

/-- A union adds a link. -/
theorem Groups.union {forest : Forest n} {linked : Fin n → Fin n → Prop} (groups : forest.Groups linked)
    (a b : Fin n) : (forest.union a b).Groups fun i j => linked i j ∨ (i, j) = (a, b) := by
  intro i j
  constructor
  · intro same
    have kept : ∀ {x y}, forest.root x = forest.root y →
        Relation.EqvGen (fun i j => linked i j ∨ (i, j) = (a, b)) x y :=
      fun same => Relation.EqvGen.mono (fun _ _ => Or.inl) _ _ ((groups _ _).1 same)
    have new : Relation.EqvGen (fun i j => linked i j ∨ (i, j) = (a, b)) a b := .rel a b (.inr rfl)
    rcases (root_union_eq_iff forest a b i j).1 same with old | ⟨left, right⟩ | ⟨left, right⟩
    · exact kept old
    · exact (kept left).trans _ _ _ (new.trans _ _ _ (kept right.symm))
    · exact (kept left).trans _ _ _ ((new.symm _ _).trans _ _ _ (kept right.symm))
  · have sameRoot : Equivalence fun x y => (forest.union a b).root x = (forest.union a b).root y :=
      ⟨fun _ => rfl, Eq.symm, Eq.trans⟩
    refine same_of_eqvGen sameRoot fun x y link => ?_
    rcases link with old | new
    · exact (root_union_eq_iff forest a b x y).2 (.inl ((groups x y).2 (.rel x y old)))
    · cases new
      exact (root_union_eq_iff forest a b a b).2 (.inr (.inl ⟨rfl, rfl⟩))

theorem Groups.unionAll {forest : Forest n} {linked : Fin n → Fin n → Prop} (groups : forest.Groups linked)
    (pairs : List (Fin n × Fin n)) :
    (forest.unionAll pairs).Groups fun i j => linked i j ∨ (i, j) ∈ pairs := by
  induction pairs generalizing forest linked with
  | nil =>
      simp only [List.not_mem_nil, or_false]
      exact groups
  | cons pair rest inductionHypothesis =>
      simp only [List.mem_cons, ← or_assoc]
      exact inductionHypothesis (groups.union pair.1 pair.2)

end Forest
end Fleet
