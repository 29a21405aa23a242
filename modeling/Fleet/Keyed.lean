namespace Fleet

/-!
# Values under distinct keys

Nodes by their id, files by their path, labels, network interfaces: all of these are finite maps from
texts, and every one of them is shown and walked in the order of its keys.  A `Keyed` collection is the
list of its entries in that order, with the guarantee that the keys strictly increase.  Hence two
collections with the same entries are equal, and a walk over one is a walk over a list.

Texts are compared character by character, which is also the order of their UTF-8 bytes.
-/

/-- A finite map from texts, as its entries in the order of their keys. -/
structure Keyed (α : Type) where
  entries : List (String × α)
  increasing : entries.Pairwise (fun left right => left.1 < right.1)

namespace Keyed

variable {α β : Type}

theorem ext {left right : Keyed α} (same : left.entries = right.entries) : left = right := by
  cases left
  cases right
  cases same
  rfl

instance [DecidableEq α] : DecidableEq (Keyed α) := fun left right =>
  if same : left.entries = right.entries then isTrue (ext same)
  else isFalse fun equal => same (congrArg entries equal)

def empty : Keyed α :=
  ⟨[], List.Pairwise.nil⟩

instance : Inhabited (Keyed α) := ⟨empty⟩

/-- Put a value under a key in an increasing list of entries, replacing what the key had. -/
def place (key : String) (value : α) : List (String × α) → List (String × α)
  | [] => [(key, value)]
  | entry :: rest =>
      if key < entry.1 then (key, value) :: entry :: rest
      else if key = entry.1 then (key, value) :: rest
      else entry :: place key value rest

theorem mem_place {key : String} {value : α} {entries : List (String × α)} {entry : String × α}
    (member : entry ∈ place key value entries) : entry = (key, value) ∨ entry ∈ entries := by
  induction entries with
  | nil => simpa [place] using member
  | cons head rest inductionHypothesis =>
      unfold place at member
      split at member
      · simpa using member
      · split at member
        · rcases List.mem_cons.1 member with here | later
          · exact Or.inl here
          · exact Or.inr (List.mem_cons_of_mem _ later)
        · rcases List.mem_cons.1 member with here | later
          · exact Or.inr (here ▸ List.mem_cons_self)
          · exact (inductionHypothesis later).imp id (List.mem_cons_of_mem _)

theorem increasing_place (key : String) (value : α) {entries : List (String × α)}
    (increasing : entries.Pairwise (fun left right => left.1 < right.1)) :
    (place key value entries).Pairwise (fun left right => left.1 < right.1) := by
  induction entries with
  | nil => simp [place]
  | cons head rest inductionHypothesis =>
      have headBelow : ∀ entry ∈ rest, head.1 < entry.1 := (List.pairwise_cons.1 increasing).1
      have restIncreasing := increasing.of_cons
      unfold place
      split
      · rename_i before
        refine List.Pairwise.cons ?_ increasing
        intro entry member
        rcases List.mem_cons.1 member with here | later
        · exact here ▸ before
        · exact String.lt_trans before (headBelow entry later)
      · rename_i notBefore
        split
        · rename_i same
          refine List.Pairwise.cons ?_ restIncreasing
          intro entry member
          exact same ▸ headBelow entry member
        · rename_i different
          refine List.Pairwise.cons ?_ (inductionHypothesis restIncreasing)
          intro entry member
          rcases mem_place member with placed | kept
          · have notAfter : ¬ key ≤ head.1 := fun below =>
              different (String.le_antisymm below (String.not_lt.1 notBefore))
            exact placed ▸ String.not_le.1 notAfter
          · exact headBelow entry kept

/-- Put a value under a key, replacing what the key had. -/
def insert (key : String) (value : α) (map : Keyed α) : Keyed α :=
  ⟨place key value map.entries, increasing_place key value map.increasing⟩

/-- Collect entries in the order given; of two with one key the later stands. -/
def ofList (entries : List (String × α)) : Keyed α :=
  entries.foldl (fun map entry => map.insert entry.1 entry.2) empty

def get? (map : Keyed α) (key : String) : Option α :=
  (map.entries.find? fun entry => entry.1 == key).map Prod.snd

def contains (map : Keyed α) (key : String) : Bool :=
  (map.get? key).isSome

def keys (map : Keyed α) : List String :=
  map.entries.map Prod.fst

def values (map : Keyed α) : List α :=
  map.entries.map Prod.snd

def size (map : Keyed α) : Nat :=
  map.entries.length

def mapValues (f : α → β) (map : Keyed α) : Keyed β :=
  ⟨map.entries.map fun entry => (entry.1, f entry.2),
    List.pairwise_map.2 map.increasing⟩

def erase (key : String) (map : Keyed α) : Keyed α :=
  ⟨map.entries.filter fun entry => entry.1 != key, map.increasing.filter _⟩

/-- Change the value under a key, with a value of its own for a key that has none. -/
def alter (key : String) (fresh : α) (f : α → α) (map : Keyed α) : Keyed α :=
  map.insert key (f ((map.get? key).getD fresh))

@[simp] theorem values_mapValues (f : α → β) (map : Keyed α) :
    (map.mapValues f).values = map.values.map f := by
  simp [values, mapValues, Function.comp_def]

@[simp] theorem keys_mapValues (f : α → β) (map : Keyed α) :
    (map.mapValues f).keys = map.keys := by
  simp [keys, mapValues, Function.comp_def]

theorem find?_place (key other : String) (value : α) (entries : List (String × α)) :
    (place key value entries).find? (fun entry => entry.1 == other) =
      if key = other then some (key, value) else entries.find? (fun entry => entry.1 == other) := by
  induction entries with
  | nil => by_cases same : key = other <;> simp [place, same]
  | cons head rest inductionHypothesis =>
      unfold place
      split
      · by_cases same : key = other <;> simp [same]
      · split
        · rename_i equal
          by_cases same : head.1 = other <;> simp [equal, same]
        · rename_i different
          by_cases atHead : head.1 = other
          · have notKey : key ≠ other := fun same => different (same.trans atHead.symm)
            simp [atHead, notKey]
          · simp [atHead, inductionHypothesis]

/-- What a key holds after a value was put somewhere. -/
theorem get?_insert (map : Keyed α) (key other : String) (value : α) :
    (map.insert key value).get? other = if key = other then some value else map.get? other := by
  unfold get? insert
  rw [find?_place]
  split <;> rfl

end Keyed
end Fleet
