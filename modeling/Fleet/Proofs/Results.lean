import Mathlib.Data.List.Forall2

namespace Fleet

/-!
# Results of fallible steps

A step that may fail gives a result or a fault.  When several steps were taken and there is a result in the end, each of
them had one.
-/

variable {ε δ α β γ : Type}

theorem exists_ok_of_bind {first : Except ε α} {next : α → Except ε β} {value : β}
    (bound : first >>= next = .ok value) : ∃ given, first = .ok given ∧ next given = .ok value := by
  cases first with
  | error _ => cases bound
  | ok given => exact ⟨given, rfl, bound⟩

theorem exists_ok_of_map {first : Except ε α} {f : α → β} {value : β} (mapped : first.map f = .ok value) :
    ∃ given, first = .ok given ∧ f given = value := by
  cases first with
  | error _ => cases mapped
  | ok given => exact ⟨given, rfl, Except.ok.inj mapped⟩

theorem ok_of_mapError {f : ε → δ} {result : Except ε α} {value : α} (mapped : result.mapError f = .ok value) :
    result = .ok value := by
  cases result with
  | error _ => cases mapped
  | ok _ => cases mapped; rfl

theorem toOption_eq_some_iff {result : Except ε α} {value : α} : result.toOption = some value ↔ result = .ok value := by
  cases result with
  | error _ => exact ⟨nofun, nofun⟩
  | ok _ => exact Option.some_inj.trans (Iff.of_eq (Except.ok.injEq _ _).symm)

theorem mapM_option_of_each {write : α → β} {read : β → Except ε γ} {f : α → γ}
    (each : ∀ item, read (write item) = .ok (f item)) (given : Option α) :
    (given.map write).mapM read = .ok (given.map f) := by
  cases given with
  | none => rfl
  | some item => exact congrArg (Except.map some) (each item)

/-! ## Lists -/

theorem exists_ok_of_mem_filterMap {reads : α → Except ε β} {entries : List α} {value : β}
    (member : value ∈ entries.filterMap fun entry => (reads entry).toOption) :
    ∃ entry ∈ entries, reads entry = .ok value := by
  rcases List.mem_filterMap.1 member with ⟨entry, listed, found⟩
  exact ⟨entry, listed, toOption_eq_some_iff.1 found⟩

/-- If a list is read item by item, the results stand for the items one by one. -/
theorem forall₂_of_mapM {read : α → Except ε β} {items : List α} {results : List β}
    (done : items.mapM read = .ok results) : List.Forall₂ (fun item result => read item = .ok result) items results := by
  induction items generalizing results with
  | nil =>
      cases done
      exact .nil
  | cons item rest inductionHypothesis =>
      rw [List.mapM_cons] at done
      rcases exists_ok_of_bind done with ⟨value, first, more⟩
      rcases exists_ok_of_bind more with ⟨values, others, all⟩
      cases all
      exact .cons first (inductionHypothesis others)

theorem exists_ok_of_mem_mapM {read : α → Except ε β} {items : List α} {results : List β}
    (done : items.mapM read = .ok results) {result : β} (member : result ∈ results) :
    ∃ item ∈ items, read item = .ok result := by
  have reads := forall₂_of_mapM done
  clear done
  induction reads with
  | nil => cases member
  | cons first _ inductionHypothesis =>
      rcases List.mem_cons.1 member with rfl | later
      · exact ⟨_, List.mem_cons_self, first⟩
      · rcases inductionHypothesis later with ⟨other, otherMember, read⟩
        exact ⟨other, List.mem_cons_of_mem _ otherMember, read⟩

/-- Where what cannot be read is passed over, the results stand for the items that can. -/
theorem forall₂_filter_isOk (read : α → Except ε β) (items : List α) :
    List.Forall₂ (fun item result => read item = .ok result) (items.filter fun item => (read item).isOk)
      (items.filterMap fun item => (read item).toOption) := by
  induction items with
  | nil => exact .nil
  | cons item rest inductionHypothesis =>
      cases found : read item with
      | error fault =>
          have unreadable : ¬ (read item).isOk = true := by rw [found]; exact Bool.false_ne_true
          rw [List.filter_cons_of_neg (p := fun item => (read item).isOk) unreadable,
            List.filterMap_cons_none (by rw [found]; rfl)]
          exact inductionHypothesis
      | ok result =>
          rw [List.filter_cons_of_pos (by rw [found]; rfl), List.filterMap_cons_some (by rw [found]; rfl)]
          exact .cons found inductionHypothesis

theorem mapM_of_each {write : α → β} {read : β → Except ε γ} {f : α → γ} {items : List α}
    (each : ∀ item ∈ items, read (write item) = .ok (f item)) :
    (items.map write).mapM read = .ok (items.map f) := by
  induction items with
  | nil => rfl
  | cons item rest inductionHypothesis =>
      rcases List.forall_mem_cons.1 each with ⟨first, others⟩
      rw [List.map_cons, List.mapM_cons, first, inductionHypothesis others]
      rfl

end Fleet
