import Mathlib.Data.List.Forall2

namespace Fleet

/-!
# Runs of a machine

The store and the worker are machines: an input at a time takes a state to the next one and is answered.
A run takes inputs one after the other and notes each with its answer.

Many inputs concern one part of the state only, such as one node.  When an input leaves what can be seen
of all other parts as it is, and what it does to its own part depends on that part alone, then what is seen
of a part after a run, and every answer given to the inputs that concern it, depend only on those inputs in
their order.  It does not matter which inputs for other parts came in between.  Both conditions speak of a
single step; that they carry over to runs is proved here once for all machines.

Two runs need not read the same times.  The times at which corresponding inputs happen are related by an
arbitrary `clock`, and what is seen of a part may depend on them, as long as the relation on what is seen
allows for it.
-/

/-- What an input at a time makes of a state, and how it is answered. -/
abbrev Machine (σ ι α : Type) := σ → UInt64 → ι → σ × α

namespace Machine

variable {σ ι α κ : Type} {Part : κ → Type}

/-- Take inputs one after the other, each at its time, and note every one with its answer. -/
def run (machine : Machine σ ι α) : σ → List (UInt64 × ι) → σ × List (ι × α)
  | state, [] => (state, [])
  | state, (now, input) :: rest =>
      let (next, answer) := machine state now input
      let (final, notes) := machine.run next rest
      (final, (input, answer) :: notes)

theorem run_cons (machine : Machine σ ι α) (state : σ) (now : UInt64) (input : ι)
    (rest : List (UInt64 × ι)) :
    machine.run state ((now, input) :: rest) =
      ((machine.run (machine state now input).1 rest).1,
        (input, (machine state now input).2) :: (machine.run (machine state now input).1 rest).2) := rfl

/-- A run notes its inputs in their order. -/
theorem run_inputs (machine : Machine σ ι α) (state : σ) (steps : List (UInt64 × ι)) :
    (machine.run state steps).2.map Prod.fst = steps.map Prod.snd := by
  induction steps generalizing state with
  | nil => rfl
  | cons step rest inductionHypothesis =>
      rw [run_cons, List.map_cons, List.map_cons, inductionHypothesis]

theorem run_append (machine : Machine σ ι α) (state : σ) (first second : List (UInt64 × ι)) :
    machine.run state (first ++ second) =
      ((machine.run (machine.run state first).1 second).1,
        (machine.run state first).2 ++ (machine.run (machine.run state first).1 second).2) := by
  induction first generalizing state with
  | nil => rfl
  | cons step rest inductionHypothesis =>
      rw [List.cons_append, run_cons, run_cons, inductionHypothesis]
      rfl

/-- The state after a run, seen from a step on the way. -/
theorem run_through (machine : Machine σ ι α) (state : σ) (before : List (UInt64 × ι)) (now : UInt64) (input : ι)
    (after : List (UInt64 × ι)) :
    (machine.run state (before ++ (now, input) :: after)).1 =
      (machine.run (machine (machine.run state before).1 now input).1 after).1 := by
  rw [run_append, run_cons]

/-- What every step keeps, every run keeps. -/
theorem run_keeps {machine : Machine σ ι α} (Holds : σ → Prop)
    (keeps : ∀ state now input, Holds state → Holds (machine state now input).1)
    {state : σ} (holds : Holds state) (steps : List (UInt64 × ι)) : Holds (machine.run state steps).1 := by
  induction steps generalizing state with
  | nil => exact holds
  | cons step rest inductionHypothesis =>
      rw [run_cons]
      exact inductionHypothesis (keeps state step.1 step.2 holds)

/-! ## Parts that do not meet -/

/-- The steps of a run that concern a part. -/
def stepsOf [DecidableEq κ] (part : ι → κ) (own : κ) (steps : List (UInt64 × ι)) : List (UInt64 × ι) :=
  steps.filter fun step => part step.2 = own

/-- The notes of a run that concern a part. -/
def notesOf [DecidableEq κ] (part : ι → κ) (own : κ) (notes : List (ι × α)) : List (ι × α) :=
  notes.filter fun note => part note.1 = own

/-- Two steps with one input, at times that correspond. -/
def Corresponds (clock : UInt64 → UInt64 → Prop) (first second : UInt64 × ι) : Prop :=
  clock first.1 second.1 ∧ first.2 = second.2

/-- The parts of a machine do not meet: an input changes nothing that is seen of the parts that it does not
concern, and does to its own part, and answers, what depends on that part alone. -/
structure Separated (machine : Machine σ ι α) (part : ι → κ) (view : (own : κ) → σ → Part own)
    (related : (own : κ) → Part own → Part own → Prop) (clock : UInt64 → UInt64 → Prop) : Prop where
  elsewhere : ∀ own state now input, part input ≠ own →
    view own (machine state now input).1 = view own state
  within : ∀ left right now later input, clock now later →
    related (part input) (view (part input) left) (view (part input) right) →
    related (part input) (view (part input) (machine left now input).1)
        (view (part input) (machine right later input).1) ∧
      (machine left now input).2 = (machine right later input).2

section Separation

variable [DecidableEq κ] {machine : Machine σ ι α} {part : ι → κ} {view : (own : κ) → σ → Part own}
  {related : (own : κ) → Part own → Part own → Prop} {clock : UInt64 → UInt64 → Prop}

theorem stepsOf_cons_of_eq {own : κ} {step : UInt64 × ι} (here : part step.2 = own)
    (rest : List (UInt64 × ι)) : stepsOf part own (step :: rest) = step :: stepsOf part own rest := by
  simp [stepsOf, here]

theorem stepsOf_cons_of_ne {own : κ} {step : UInt64 × ι} (elsewhere : part step.2 ≠ own)
    (rest : List (UInt64 × ι)) : stepsOf part own (step :: rest) = stepsOf part own rest := by
  simp [stepsOf, elsewhere]

theorem notesOf_cons_of_eq {own : κ} {note : ι × α} (here : part note.1 = own)
    (rest : List (ι × α)) : notesOf part own (note :: rest) = note :: notesOf part own rest := by
  simp [notesOf, here]

theorem notesOf_cons_of_ne {own : κ} {note : ι × α} (elsewhere : part note.1 ≠ own)
    (rest : List (ι × α)) : notesOf part own (note :: rest) = notesOf part own rest := by
  simp [notesOf, elsewhere]

/-- When parts do not meet and two states are related in all of them, a step keeps them so. -/
theorem Separated.all_related (separated : machine.Separated part view related clock) {left right : σ}
    (alike : ∀ own, related own (view own left) (view own right)) {now later : UInt64} (times : clock now later)
    (input : ι) :
    (∀ own, related own (view own (machine left now input).1) (view own (machine right later input).1)) ∧
      (machine left now input).2 = (machine right later input).2 := by
  rcases separated.within left right now later input times (alike (part input)) with ⟨within, sameAnswer⟩
  refine ⟨fun own => ?_, sameAnswer⟩
  by_cases here : part input = own
  · exact here ▸ within
  · rw [separated.elsewhere own left now input here, separated.elsewhere own right later input here]
    exact alike own

/-- When parts do not meet, runs that correspond in the steps of one part agree on that part and on every
answer given there.  Steps that concern other parts are passed over on either side; only when both runs
have come to a step of the part itself do the two advance together. -/
theorem Separated.run_related (separated : machine.Separated part view related clock) (own : κ)
    {left right : List (UInt64 × ι)}
    (correspond : List.Forall₂ (Corresponds clock) (stepsOf part own left) (stepsOf part own right))
    {first second : σ} (alike : related own (view own first) (view own second)) :
    related own (view own (machine.run first left).1) (view own (machine.run second right).1) ∧
      notesOf part own (machine.run first left).2 = notesOf part own (machine.run second right).2 := by
  induction left generalizing right first second with
  | nil =>
      induction right generalizing second with
      | nil => exact ⟨alike, rfl⟩
      | cons step rest inductionHypothesis =>
          by_cases here : part step.2 = own
          · rw [stepsOf_cons_of_eq here] at correspond
            cases correspond
          · rw [stepsOf_cons_of_ne here] at correspond
            rw [run_cons, notesOf_cons_of_ne here]
            refine inductionHypothesis correspond ?_
            rw [separated.elsewhere own second step.1 step.2 here]
            exact alike
  | cons leftStep leftRest leftHypothesis =>
      by_cases leftHere : part leftStep.2 = own
      · rw [stepsOf_cons_of_eq leftHere] at correspond
        induction right generalizing second with
        | nil => cases correspond
        | cons rightStep rightRest rightHypothesis =>
            by_cases rightHere : part rightStep.2 = own
            · rw [stepsOf_cons_of_eq rightHere] at correspond
              rcases leftStep with ⟨now, input⟩
              rcases rightStep with ⟨later, other⟩
              rcases List.forall₂_cons.1 correspond with ⟨⟨times, sameInput⟩, restCorresponds⟩
              subst sameInput
              subst leftHere
              rcases separated.within first second now later input times alike with ⟨nextAlike, sameAnswer⟩
              rcases leftHypothesis restCorresponds nextAlike with ⟨finalAlike, sameNotes⟩
              refine ⟨finalAlike, ?_⟩
              rw [run_cons, run_cons, notesOf_cons_of_eq rightHere, notesOf_cons_of_eq rightHere, sameAnswer,
                sameNotes]
            · rw [stepsOf_cons_of_ne rightHere] at correspond
              rw [run_cons machine second, notesOf_cons_of_ne rightHere]
              refine rightHypothesis correspond ?_
              rw [separated.elsewhere own second rightStep.1 rightStep.2 rightHere]
              exact alike
      · rw [stepsOf_cons_of_ne leftHere] at correspond
        rw [run_cons machine first, notesOf_cons_of_ne leftHere]
        refine leftHypothesis correspond ?_
        rw [separated.elsewhere own first leftStep.1 leftStep.2 leftHere]
        exact alike

/-- When nothing depends on the time, a part is after a run, and is answered, as if only the inputs that
concern it had been given. -/
theorem Separated.run_alone (separated : machine.Separated part view related fun _ _ => True) (own : κ)
    {history solo : List (UInt64 × ι)}
    (sameInputs : solo.map Prod.snd = (stepsOf part own history).map Prod.snd) {first second : σ}
    (alike : related own (view own first) (view own second)) :
    related own (view own (machine.run first history).1) (view own (machine.run second solo).1) ∧
      notesOf part own (machine.run first history).2 = (machine.run second solo).2 := by
  have concerns : ∀ input ∈ solo.map Prod.snd, part input = own := by
    intro input member
    rw [sameInputs] at member
    rcases List.mem_map.1 member with ⟨step, stepMember, rfl⟩
    exact of_decide_eq_true (List.mem_filter.1 stepMember).2
  have allSteps : stepsOf part own solo = solo := by
    refine List.filter_eq_self.2 fun step member => ?_
    exact decide_eq_true (concerns step.2 (List.mem_map_of_mem member))
  have allNotes : notesOf part own (machine.run second solo).2 = (machine.run second solo).2 := by
    refine List.filter_eq_self.2 fun note member => ?_
    have given : note.1 ∈ (machine.run second solo).2.map Prod.fst := List.mem_map_of_mem member
    rw [run_inputs] at given
    exact decide_eq_true (concerns note.1 given)
  have correspond : List.Forall₂ (Corresponds fun _ _ => True) (stepsOf part own history)
      (stepsOf part own solo) := by
    have inputs : List.Forall₂ (fun left right => left = right) ((stepsOf part own history).map Prod.snd)
        (solo.map Prod.snd) := by
      rw [sameInputs]
      exact List.forall₂_refl _
    rw [allSteps]
    rw [List.forall₂_map_left_iff, List.forall₂_map_right_iff] at inputs
    exact inputs.imp fun _ _ same => ⟨trivial, same⟩
  rw [← allNotes]
  exact separated.run_related own correspond alike

end Separation
end Machine
end Fleet
