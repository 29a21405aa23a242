namespace Fleet

/-!
# Lists without repetitions

Ids of containers, addresses of a host, dependencies of a bundle: lists in which the order of first
occurrence counts and a repetition says nothing new.  `addNew` puts an item at the end of such a list, and
`distinct` keeps the first occurrence of everything.
-/

variable {α : Type} [BEq α] [LawfulBEq α]

omit [LawfulBEq α] in
/-- Add an item at the end of a list unless it is there already. -/
def addNew (known : List α) (item : α) : List α :=
  if known.contains item then known else known ++ [item]

omit [LawfulBEq α] in
def addAll (known items : List α) : List α :=
  items.foldl addNew known

omit [LawfulBEq α] in
/-- The items of a list, each once, in the order in which they first occur. -/
def distinct (items : List α) : List α :=
  addAll [] items

theorem mem_addNew {known : List α} {item other : α} :
    other ∈ addNew known item ↔ other ∈ known ∨ other = item := by
  unfold addNew
  split
  · rename_i present
    have member : item ∈ known := List.contains_iff_mem.1 present
    constructor
    · exact Or.inl
    · rintro (old | rfl)
      · exact old
      · exact member
  · simp

theorem mem_addAll {known items : List α} {other : α} :
    other ∈ addAll known items ↔ other ∈ known ∨ other ∈ items := by
  induction items generalizing known with
  | nil => simp [addAll]
  | cons item rest inductionHypothesis =>
      have step : addAll known (item :: rest) = addAll (addNew known item) rest := rfl
      rw [step, inductionHypothesis, mem_addNew, List.mem_cons, or_assoc]

@[simp] theorem mem_distinct {items : List α} {other : α} :
    other ∈ distinct items ↔ other ∈ items := by
  simp [distinct, mem_addAll]

theorem distinct_eq_nil_iff {items : List α} : distinct items = [] ↔ items = [] := by
  simp only [List.eq_nil_iff_forall_not_mem, mem_distinct]

theorem nodup_addNew {known : List α} {item : α} (distinctKnown : known.Nodup) :
    (addNew known item).Nodup := by
  unfold addNew
  split
  · exact distinctKnown
  · rename_i absent
    rw [List.nodup_append]
    refine ⟨distinctKnown, by simp, ?_⟩
    intro old oldMember fresh freshMember
    obtain rfl : fresh = item := by simpa using freshMember
    intro same
    exact absent (List.contains_iff_mem.2 (same ▸ oldMember))

theorem nodup_addAll {known : List α} (items : List α) (distinctKnown : known.Nodup) :
    (addAll known items).Nodup := by
  induction items generalizing known with
  | nil => exact distinctKnown
  | cons item rest inductionHypothesis => exact inductionHypothesis (nodup_addNew distinctKnown)

theorem nodup_distinct (items : List α) : (distinct items).Nodup :=
  nodup_addAll items List.nodup_nil

/-- Adding what is there already changes nothing. -/
theorem addAll_eq_self {known items : List α} (present : ∀ item ∈ items, item ∈ known) :
    addAll known items = known := by
  induction items with
  | nil => rfl
  | cons item rest inductionHypothesis =>
      have here : known.contains item = true :=
        List.contains_iff_mem.2 (present item List.mem_cons_self)
      have step : addAll known (item :: rest) = addAll (addNew known item) rest := rfl
      rw [step, addNew, if_pos here]
      exact inductionHypothesis fun other member => present other (List.mem_cons_of_mem _ member)

omit [LawfulBEq α] in
theorem addAll_append (known first second : List α) :
    addAll known (first ++ second) = addAll (addAll known first) second :=
  List.foldl_append

/-- Items that are new and distinct are added as they stand. -/
theorem addAll_eq_append {known fresh : List α} (distinctFresh : fresh.Nodup)
    (absent : ∀ item ∈ fresh, item ∉ known) : addAll known fresh = known ++ fresh := by
  induction fresh generalizing known with
  | nil => exact (List.append_nil known).symm
  | cons item rest inductionHypothesis =>
      have here : ¬ known.contains item = true := fun present =>
        absent item List.mem_cons_self (List.contains_iff_mem.1 present)
      have step : addAll known (item :: rest) = addAll (addNew known item) rest := rfl
      rw [step, addNew, if_neg here, inductionHypothesis (List.nodup_cons.1 distinctFresh).2,
        List.append_assoc]
      · rfl
      · intro other member present
        rcases List.mem_append.1 present with old | same
        · exact absent other (List.mem_cons_of_mem _ member) old
        · exact (List.nodup_cons.1 distinctFresh).1 (List.mem_singleton.1 same ▸ member)

/-- What is there stays in front, and what comes after it is new and distinct. -/
theorem exists_addAll_eq_append (known items : List α) :
    ∃ fresh, addAll known items = known ++ fresh ∧ fresh.Nodup ∧ ∀ item ∈ fresh, item ∉ known := by
  induction items generalizing known with
  | nil => exact ⟨[], (List.append_nil known).symm, List.nodup_nil, fun _ member => nomatch member⟩
  | cons item rest inductionHypothesis =>
      have step : addAll known (item :: rest) = addAll (addNew known item) rest := rfl
      rcases inductionHypothesis (addNew known item) with ⟨fresh, added, distinctFresh, absent⟩
      rw [step, added]
      unfold addNew at absent ⊢
      split at absent
      · rename_i present
        rw [if_pos present]
        exact ⟨fresh, rfl, distinctFresh, absent⟩
      · rename_i missing
        rw [if_neg missing]
        refine ⟨item :: fresh, by rw [List.append_assoc]; rfl, ?_, ?_⟩
        · refine List.nodup_cons.2 ⟨fun repeated => ?_, distinctFresh⟩
          exact absent item repeated (List.mem_append_right _ List.mem_cons_self)
        · intro other member present
          rcases List.mem_cons.1 member with rfl | later
          · exact missing (List.contains_iff_mem.2 present)
          · exact absent other later (List.mem_append_left _ present)

/-- Adding a list that begins with what is there gives that list, so adding twice is adding once. -/
theorem addAll_addAll_self (known items : List α) :
    addAll known (addAll known items) = addAll known items := by
  rcases exists_addAll_eq_append known items with ⟨fresh, added, distinctFresh, absent⟩
  rw [added, addAll_append, addAll_eq_self fun _ member => member, addAll_eq_append distinctFresh absent]

end Fleet
