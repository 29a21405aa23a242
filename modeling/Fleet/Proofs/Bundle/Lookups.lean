import Fleet.Proofs.Bundle.Forest

namespace Fleet
namespace Forest

/-!
# Lookups in a table of parents

In memory a forest is a table with a parent for every number, and nothing about a table as such keeps a walk in it from
going round in circles or from leaving it.  A lookup walks twice: up to a root, and then the same way once more, to let
every number on it point to this root.  The second walk writes to the table that it reads to find out whether it has
arrived.  A union looks up two roots, the second one in the table that the first lookup left behind.

The walks are given here step by step, as relations between what they begin with and what they end with.  A walk that
does not end, or that asks for a number outside the table, relates nothing.  As no number of a forest points upwards,
every step but the last leads down, so both walks end, and they end with what is said of forests.
-/

/-- A parent for every number below `n`.  It may be any number. -/
abbrev Table (n : Nat) := Vector Nat n

/-- What is asked of a forest. -/
inductive Call (n : Nat) where
  | union (a b : Fin n)
  | find (i : Fin n)

namespace Table

variable {n : Nat} {table : Table n}

/-- The walk from a number up to a root ends. -/
inductive Climbs (table : Table n) : Nat → Nat → Prop where
  | arrived {i : Nat} (inside : i < n) : table[i] = i → Climbs table i i
  | onwards {i root : Nat} (inside : i < n) : table[i] ≠ i → Climbs table table[i] root → Climbs table i root

/-- The walk from a number on that lets all numbers on the way point to a root ends, with a table. -/
inductive Shortens (root : Nat) : Table n → Nat → Table n → Prop where
  | arrived {table : Table n} {i : Nat} (inside : i < n) : table[i] = root → Shortens root table i table
  | onwards {table last : Table n} {i : Nat} (inside : i < n) :
      table[i] ≠ root → Shortens root (table.set i root) table[i] last → Shortens root table i last

/-- Looking up the root of a number ends, with the root and a table. -/
structure Finds (table : Table n) (i root : Nat) (last : Table n) : Prop where
  climbs : table.Climbs i root
  shortens : Shortens root table i last

/-- Of two roots the higher one points to the lower one afterwards. -/
inductive Joins (table : Table n) : Nat → Nat → Table n → Prop where
  | together {root : Nat} : Joins table root root table
  | below {left right : Nat} (inside : right < n) : left < right → Joins table left right (table.set right left)
  | above {left right : Nat} (inside : left < n) : right < left → Joins table left right (table.set left right)

/-- The union of two numbers ends, with a table. -/
inductive Unites (table : Table n) (a b : Nat) (last : Table n) : Prop where
  | joins {left right : Nat} {between after : Table n} :
      table.Finds a left between → between.Finds b right after → after.Joins left right last → Unites table a b last

/-- Calls that are made one after the other end, with a table. -/
inductive Runs : Table n → List (Call n) → Table n → Prop where
  | nothing {table : Table n} : Runs table [] table
  | union {table next last : Table n} {a b : Fin n} {rest : List (Call n)} :
      table.Unites a b next → Runs next rest last → Runs table (.union a b :: rest) last
  | find {table next last : Table n} {i : Fin n} {root : Nat} {rest : List (Call n)} :
      table.Finds i root next → Runs next rest last → Runs table (.find i :: rest) last

/-! ## One end for every walk -/

theorem Climbs.unique {i root other : Nat} (first : table.Climbs i root) (second : table.Climbs i other) :
    root = other := by
  induction first with
  | arrived inside own =>
      cases second with
      | arrived _ _ => rfl
      | onwards _ moves _ => exact absurd own moves
  | onwards inside moves _ inductionHypothesis =>
      cases second with
      | arrived _ own => exact absurd own moves
      | onwards _ _ rest => exact inductionHypothesis rest

theorem Shortens.unique {root i : Nat} {last other : Table n} (first : Shortens root table i last)
    (second : Shortens root table i other) : last = other := by
  induction first with
  | arrived inside near =>
      cases second with
      | arrived _ _ => rfl
      | onwards _ far _ => exact absurd near far
  | onwards inside far _ inductionHypothesis =>
      cases second with
      | arrived _ near => exact absurd near far
      | onwards _ _ rest => exact inductionHypothesis rest

theorem Finds.unique {i root other : Nat} {last otherLast : Table n} (first : table.Finds i root last)
    (second : table.Finds i other otherLast) : root = other ∧ last = otherLast := by
  obtain rfl := first.climbs.unique second.climbs
  exact ⟨rfl, first.shortens.unique second.shortens⟩

theorem Joins.unique {left right : Nat} {last other : Table n} (first : table.Joins left right last)
    (second : table.Joins left right other) : last = other := by
  cases first with
  | together =>
      cases second with
      | together => rfl
      | below _ lower | above _ lower => exact absurd lower (Nat.lt_irrefl _)
  | below _ lower =>
      cases second with
      | together => exact absurd lower (Nat.lt_irrefl _)
      | below _ _ => rfl
      | above _ higher => exact absurd lower (Nat.lt_asymm higher)
  | above _ higher =>
      cases second with
      | together => exact absurd higher (Nat.lt_irrefl _)
      | below _ lower => exact absurd lower (Nat.lt_asymm higher)
      | above _ _ => rfl

theorem Unites.unique {a b : Nat} {last other : Table n} (first : table.Unites a b last)
    (second : table.Unites a b other) : last = other := by
  rcases first with ⟨left, right, joins⟩
  rcases second with ⟨otherLeft, otherRight, otherJoins⟩
  obtain ⟨rfl, rfl⟩ := left.unique otherLeft
  obtain ⟨rfl, rfl⟩ := right.unique otherRight
  exact joins.unique otherJoins

theorem Runs.unique {calls : List (Call n)} {last other : Table n} (first : table.Runs calls last)
    (second : table.Runs calls other) : last = other := by
  induction first with
  | nothing =>
      cases second
      rfl
  | union unites _ inductionHypothesis =>
      cases second with
      | union otherUnites rest =>
          obtain rfl := unites.unique otherUnites
          exact inductionHypothesis rest
  | find finds _ inductionHypothesis =>
      cases second with
      | find otherFinds rest =>
          obtain ⟨_, rfl⟩ := finds.unique otherFinds
          exact inductionHypothesis rest

end Table

variable {n : Nat}

/-! ## The walks in a forest -/

/-- The table of a forest. -/
def table (forest : Forest n) : Table n :=
  forest.parent.map Fin.val

theorem getElem_table (forest : Forest n) {i : Nat} (inside : i < n) : forest.table[i] = forest.parent[i].val :=
  Vector.getElem_map Fin.val inside

theorem table_discrete (n : Nat) : (discrete n).table = Vector.range n := by
  apply Vector.ext
  intro i inside
  rw [getElem_table (discrete n) inside, Vector.getElem_range]
  simp [discrete]

theorem table_point (forest : Forest n) {i target : Fin n} (below : target ≤ i) :
    (forest.point i target below).table = forest.table.set i target i.isLt :=
  Vector.map_set

theorem climbs_root (forest : Forest n) (i : Fin n) : forest.table.Climbs i (forest.root i) := by
  fun_induction root forest i with
  | case1 i own =>
      apply Table.Climbs.arrived i.isLt
      rw [getElem_table]
      exact congrArg Fin.val own
  | case2 i notRoot inductionHypothesis =>
      apply Table.Climbs.onwards i.isLt
      · rw [getElem_table]
        exact fun same => notRoot (Fin.ext same)
      · rw [getElem_table]
        exact inductionHypothesis

theorem shortens_compress {forest : Forest n} {root i : Fin n} (found : root = forest.root i) :
    Table.Shortens root forest.table i (forest.compress root i).table := by
  fun_induction compress forest root i with
  | case1 forest i next onTheWay inductionHypothesis =>
      subst found
      -- The way above stays as it was: letting a number point to its root changes no root.
      have sameRoot : forest.root i = (forest.point i (forest.root i) onTheWay.1).root next :=
        ((root_point_root forest i onTheWay.1 next).trans (root_parent forest i)).symm
      have rest := inductionHypothesis sameRoot
      apply Table.Shortens.onwards i.isLt
      · rw [getElem_table]
        exact fun same => onTheWay.2.1 (Fin.ext same)
      · rw [getElem_table, ← table_point forest onTheWay.1]
        exact rest
  | case2 forest i next done =>
      subst found
      apply Table.Shortens.arrived i.isLt
      rw [getElem_table]
      by_contra far
      have differs : next ≠ forest.root i := fun same => far (congrArg Fin.val same)
      -- A number that does not point to its root points to another number, which is lower.
      have moves : next ≠ i := fun own => differs (own.trans (root_of_parent_eq own).symm)
      exact done ⟨root_le forest i, differs, lt_of_le_of_ne (forest.descends i) moves⟩

theorem finds_find (forest : Forest n) (i : Fin n) :
    forest.table.Finds i (forest.find i).1 (forest.find i).2.table :=
  ⟨climbs_root forest i, shortens_compress rfl⟩

theorem unites_union (forest : Forest n) (a b : Fin n) : forest.table.Unites a b (forest.union a b).table := by
  apply Table.Unites.joins (finds_find forest a) (finds_find (forest.find a).2 b)
  unfold union
  dsimp only
  split
  · next lower =>
      rw [table_point]
      exact .below (Fin.isLt _) lower
  · split
    · next higher =>
        rw [table_point]
        exact .above (Fin.isLt _) higher
    · next notLower notHigher =>
        have same : (forest.find a).1 = ((forest.find a).2.find b).1 :=
          le_antisymm (not_lt.1 notHigher) (not_lt.1 notLower)
        rw [same]
        exact .together

/-! ## Calls -/

/-- The forest after a call. -/
def call (forest : Forest n) : Call n → Forest n
  | .union a b => forest.union a b
  | .find i => (forest.find i).2

def callAll (forest : Forest n) (calls : List (Call n)) : Forest n :=
  calls.foldl call forest

theorem runs_callAll (forest : Forest n) (calls : List (Call n)) :
    forest.table.Runs calls (forest.callAll calls).table := by
  induction calls generalizing forest with
  | nil => exact .nothing
  | cons call rest inductionHypothesis =>
      cases call with
      | union a b => exact .union (unites_union forest a b) (inductionHypothesis _)
      | find i => exact .find (finds_find forest i) (inductionHypothesis _)

/-- The pairs of numbers that calls unite. -/
def united (calls : List (Call n)) : List (Fin n × Fin n) :=
  calls.filterMap fun
    | .union a b => some (a, b)
    | .find _ => none

theorem mem_united_iff {calls : List (Call n)} {a b : Fin n} : (a, b) ∈ united calls ↔ .union a b ∈ calls := by
  unfold united
  rw [List.mem_filterMap]
  constructor
  · rintro ⟨call, made, unites⟩
    cases call with
    | union c d =>
        cases unites
        exact made
    | find i => cases unites
  · intro made
    exact ⟨_, made, rfl⟩

/-- Where the roots are after calls depends on where they were before, and on nothing but the unions. -/
theorem root_callAll {forest other : Forest n} (sameRoots : ∀ j, forest.root j = other.root j)
    (calls : List (Call n)) (j : Fin n) : (forest.callAll calls).root j = (other.unionAll (united calls)).root j := by
  induction calls generalizing forest other with
  | nil => exact sameRoots j
  | cons call rest inductionHypothesis =>
      cases call with
      | union a b =>
          apply inductionHypothesis
          intro k
          change (forest.union a b).root k = (other.union a b).root k
          rw [root_union, root_union, sameRoots, sameRoots, sameRoots]
      | find i =>
          apply inductionHypothesis
          intro k
          exact (root_find forest i k).trans (sameRoots k)

theorem groups_callAll (calls : List (Call n)) : ((discrete n).callAll calls).Groups fun a b => .union a b ∈ calls := by
  intro i j
  rw [root_callAll (fun _ => rfl) calls i, root_callAll (fun _ => rfl) calls j,
    (groups_discrete n).unionAll (united calls) i j]
  simp only [mem_united_iff, false_or]

/-- From single numbers on, all calls end, with one table, which is that of a forest and in which no number points
upwards.  In this table looking up the root of a number ends, with one root and one table, and so does looking up
another root in the table that is left behind.  Two numbers have one root just when they are connected by the unions
that were made.  The root of a number is the least of all numbers that are connected to it.  Looking up a root
changes no root. -/
theorem partition_of_calls (n : Nat) (calls : List (Call n)) :
    let forest := (discrete n).callAll calls
    let Connected := Relation.EqvGen fun a b => .union a b ∈ calls
    (∀ table, Table.Runs (Vector.range n) calls table ↔ table = forest.table) ∧
      (∀ i (inside : i < n), forest.table[i] ≤ i) ∧
      (∀ i root last, forest.table.Finds (i : Fin n) root last ↔
        root = (forest.find i).1 ∧ last = (forest.find i).2.table) ∧
      (∀ a b, (forest.find a).1 = ((forest.find a).2.find b).1 ↔ Connected a b) ∧
      (∀ i, Connected i (forest.find i).1 ∧ ∀ j, Connected i j → (forest.find i).1 ≤ j) ∧
      ∀ i j, ((forest.find i).2.find j).1 = (forest.find j).1 := by
  intro forest Connected
  have groups : forest.Groups fun a b => .union a b ∈ calls := groups_callAll calls
  have runs : Table.Runs (Vector.range n) calls forest.table := table_discrete n ▸ runs_callAll (discrete n) calls
  refine ⟨fun table => ⟨fun other => other.unique runs, ?_⟩, fun i inside => ?_, fun i root last => ⟨?_, ?_⟩, fun a b => ?_,
    fun i => ⟨?_, fun j connected => ?_⟩, fun i j => ?_⟩
  · rintro rfl
    exact runs
  · rw [getElem_table]
    exact forest.descends ⟨i, inside⟩
  · exact fun finds => finds.unique (finds_find forest i)
  · rintro ⟨rfl, rfl⟩
    exact finds_find forest i
  · rw [find_fst, find_fst, root_find]
    exact groups a b
  · exact (groups i _).1 (root_root forest i).symm
  · rw [find_fst, (groups i j).2 connected]
    exact root_le forest j
  · rw [find_fst, find_fst, root_find]

/-- Three numbers that are united by way of the least of them, and another one. -/
example : ((discrete 4).callAll [.union 3 1, .union 1 2, .find 3]).table = #v[0, 1, 1, 1] := by
  decide +kernel

end Forest
end Fleet
