namespace Fleet

/-!
# Partitions as forests

A partition of the numbers below `n` into groups, as a forest in which every number points to another one of
its group or, at the root, to itself.  No number ever points upwards.  This makes every walk to a root
finite, and the root of a group its least number.

Looking up a root shortens the way for the next time without changing any group.
-/

/-- A forest over the numbers below `n` in which every number points to itself or to a lower one. -/
structure Forest (n : Nat) where
  parent : Vector (Fin n) n
  descends : ∀ i : Fin n, parent[i] ≤ i

namespace Forest

variable {n : Nat}

def discrete (n : Nat) : Forest n where
  parent := Vector.ofFn id
  descends i := by simp

def root (forest : Forest n) (i : Fin n) : Fin n :=
  if forest.parent[i] = i then i else forest.root forest.parent[i]
termination_by i.val
decreasing_by
  rename_i notRoot
  exact Nat.lt_of_le_of_ne (forest.descends i) fun same => notRoot (Fin.ext same)

/-- Let a number point to another one that is not above it. -/
def point (forest : Forest n) (i target : Fin n) (below : target ≤ i) : Forest n where
  parent := forest.parent.set i target
  descends j := by
    by_cases same : i = j
    · subst same
      simpa using below
    · have different : i.val ≠ j.val := fun equal => same (Fin.ext equal)
      have kept := forest.descends j
      simp only [Fin.getElem_fin] at kept ⊢
      rwa [Vector.getElem_set_ne _ _ different]

/-- Let every number on the way from `i` point to `root` directly. -/
def compress (forest : Forest n) (root i : Fin n) : Forest n :=
  let next := forest.parent[i]
  if onTheWay : root ≤ i ∧ next ≠ root ∧ next < i then
    (forest.point i root onTheWay.1).compress root next
  else forest
termination_by i.val
decreasing_by exact onTheWay.2.2

/-- Look up the root of the group of a number, and shorten the way to it. -/
def find (forest : Forest n) (i : Fin n) : Fin n × Forest n :=
  let root := forest.root i
  (root, forest.compress root i)

def union (forest : Forest n) (a b : Fin n) : Forest n :=
  let (left, forest) := forest.find a
  let (right, forest) := forest.find b
  if lower : left < right then forest.point right left (Nat.le_of_lt lower)
  else if higher : right < left then forest.point left right (Nat.le_of_lt higher)
  else forest

def unionAll (forest : Forest n) (pairs : List (Fin n × Fin n)) : Forest n :=
  pairs.foldl (fun forest pair => forest.union pair.1 pair.2) forest

/-- A root is never above the number whose root it is. -/
theorem root_le (forest : Forest n) (i : Fin n) : forest.root i ≤ i := by
  fun_induction root forest i with
  | case1 i _ => exact Nat.le_refl _
  | case2 i _ inductionHypothesis => exact Nat.le_trans inductionHypothesis (forest.descends i)

theorem root_eq (forest : Forest n) (i : Fin n) :
    forest.root i = if forest.parent[i] = i then i else forest.root forest.parent[i] := by
  rw [root]

theorem root_of_parent_eq {forest : Forest n} {i : Fin n} (own : forest.parent[i] = i) : forest.root i = i := by
  rw [root_eq, if_pos own]

theorem root_parent (forest : Forest n) (i : Fin n) : forest.root forest.parent[i] = forest.root i := by
  by_cases own : forest.parent[i] = i
  · rw [own]
  · rw [root_eq forest i, if_neg own]

/-- A root is its own root. -/
theorem parent_root (forest : Forest n) (i : Fin n) :
    forest.parent[forest.root i] = forest.root i := by
  fun_induction root forest i with
  | case1 i own => simpa only [root_of_parent_eq own] using own
  | case2 i _ inductionHypothesis => simpa only [root_parent] using inductionHypothesis

theorem root_root (forest : Forest n) (i : Fin n) : forest.root (forest.root i) = forest.root i :=
  root_of_parent_eq (forest.parent_root i)

/-- The roots are all that stays the same along every step and is reached where no step leads on. -/
theorem eq_root {forest : Forest n} {value : Fin n → Fin n}
    (fixed : ∀ i : Fin n, forest.parent[i] = i → value i = i)
    (along : ∀ i : Fin n, value forest.parent[i] = value i) (i : Fin n) : value i = forest.root i := by
  fun_induction root forest i with
  | case1 i own => exact fixed i own
  | case2 i _ inductionHypothesis => rw [← along, inductionHypothesis]

end Forest
end Fleet
