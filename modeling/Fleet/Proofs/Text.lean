import Fleet.Text.Cut
import Mathlib.Data.List.DropRight

namespace Fleet
namespace Text

/-!
# Cuts and letter case

A cut at the last occurrence of a character has one outcome: it is the only way to write the text in two
parts with the character between them and not in the second.  This is what makes an address with a port
readable, since no port contains the mark that stands before it.  A cut at the first occurrence is the only way
to have the character not in the first part.

Bringing a text to lower case moves letters only.  A character that is no small letter comes from itself, so
marks and digits stand after it where they stood before, and a text of marks and digits comes from itself.  No
letter is blank in either case, so a text without blanks around it has none in lower case.
-/

/-! ## The last occurrence -/

theorem cutLast_eq_none_iff {mark : Char} {text : List Char} : cutLast mark text = none ↔ mark ∉ text := by
  induction text with
  | nil => simp [cutLast]
  | cons c rest inductionHypothesis =>
      rw [cutLast, List.mem_cons, not_or]
      cases later : cutLast mark rest with
      | some parts =>
          rw [later] at inductionHypothesis
          have present : mark ∈ rest := by simpa using inductionHypothesis
          simp [present]
      | none =>
          rw [later] at inductionHypothesis
          have absent : mark ∉ rest := inductionHypothesis.1 rfl
          simp [absent, eq_comm]

theorem cutLast_append (mark : Char) (before : List Char) {after : List Char} (absent : mark ∉ after) :
    cutLast mark (before ++ mark :: after) = some (before, after) := by
  induction before with
  | nil =>
      rw [List.nil_append, cutLast, cutLast_eq_none_iff.2 absent]
      exact if_pos rfl
  | cons c rest inductionHypothesis => rw [List.cons_append, cutLast, inductionHypothesis]

theorem not_mem_of_cutLast {mark : Char} {text before after : List Char}
    (cut : cutLast mark text = some (before, after)) : mark ∉ after := by
  induction text generalizing before with
  | nil => cases cut
  | cons c rest inductionHypothesis =>
      rw [cutLast] at cut
      cases later : cutLast mark rest with
      | some parts =>
          rw [later] at cut
          obtain ⟨rfl, rfl⟩ := Prod.mk.inj (Option.some.inj cut)
          exact inductionHypothesis later
      | none =>
          rw [later] at cut
          by_cases here : c = mark
          · obtain ⟨rfl, rfl⟩ := Prod.mk.inj (Option.some.inj ((if_pos here).symm.trans cut))
            exact cutLast_eq_none_iff.1 later
          · cases (if_neg here).symm.trans cut

/-- A cut at the last occurrence is the only way to cut at an occurrence after which there is none. -/
theorem cutLast_eq_some_iff {mark : Char} {text before after : List Char} :
    cutLast mark text = some (before, after) ↔ text = before ++ mark :: after ∧ mark ∉ after := by
  constructor
  · intro cut
    exact ⟨eq_of_cutLast cut, not_mem_of_cutLast cut⟩
  · rintro ⟨rfl, absent⟩
    exact cutLast_append mark before absent

/-! ## The first occurrence -/

theorem cutFirst_eq_none_iff {mark : Char} {text : List Char} : cutFirst mark text = none ↔ mark ∉ text := by
  induction text with
  | nil => simp [cutFirst]
  | cons c rest inductionHypothesis =>
      rw [cutFirst, List.mem_cons, not_or]
      by_cases here : c = mark
      · simp [here]
      · rw [if_neg here, Option.map_eq_none_iff, inductionHypothesis]
        exact (and_iff_right (Ne.symm here)).symm

theorem cutFirst_append {mark : Char} {before : List Char} (absent : mark ∉ before) (after : List Char) :
    cutFirst mark (before ++ mark :: after) = some (before, after) := by
  induction before with
  | nil => exact if_pos rfl
  | cons c rest inductionHypothesis =>
      rw [List.mem_cons, not_or] at absent
      rw [List.cons_append, cutFirst, if_neg (Ne.symm absent.1), inductionHypothesis absent.2]
      rfl

/-- A cut at the first occurrence is the only way to cut at an occurrence before which there is none. -/
theorem cutFirst_eq_some_iff {mark : Char} {text before after : List Char} :
    cutFirst mark text = some (before, after) ↔ text = before ++ mark :: after ∧ mark ∉ before := by
  constructor
  · intro cut
    have split := eq_of_cutFirst cut
    have present : mark ∈ text := split ▸ List.mem_append_right before List.mem_cons_self
    rcases List.eq_append_cons_of_mem present with ⟨front, rest, whole, absent⟩
    rw [whole, cutFirst_append absent] at cut
    obtain ⟨rfl, rfl⟩ := Prod.mk.inj (Option.some.inj cut)
    exact ⟨whole, absent⟩
  · rintro ⟨rfl, absent⟩
    exact cutFirst_append absent after

/-! ## A number of bytes -/

theorem byteSize_append (first second : List Char) : byteSize (first ++ second) = byteSize first + byteSize second := by
  induction first with
  | nil => rw [List.nil_append, byteSize, Nat.zero_add]
  | cons c rest inductionHypothesis =>
      rw [List.cons_append, byteSize_cons, byteSize_cons, inductionHypothesis, Nat.add_assoc]

theorem byteSize_le_of_prefix {start text : List Char} (starts : start <+: text) : byteSize start ≤ byteSize text := by
  rcases starts with ⟨rest, rfl⟩
  rw [byteSize_append]
  exact Nat.le_add_right _ _

/-- Behind a text that it starts with, a text can be cut. -/
theorem cutAt_of_prefix {start text : List Char} (starts : start <+: text) :
    cutAt (byteSize start) text = .ok (start, text.drop start.length) := by
  rcases starts with ⟨rest, rfl⟩
  rw [cutAt_append, List.drop_left]

/-! ## The end of a text -/

/-- What is taken away from the end of a text is nothing but the mark. -/
theorem exists_eq_stripEnd_append (mark : Char) (text : List Char) :
    ∃ marks, text = stripEnd mark text ++ marks ∧ ∀ c ∈ marks, c = mark := by
  refine ⟨text.rtakeWhile (· == mark), List.rdropWhile_append_rtakeWhile.symm, fun c member => ?_⟩
  exact beq_iff_eq.1 (List.mem_rtakeWhile_imp (p := (· == mark)) member)

theorem getLast?_stripEnd (mark : Char) (text : List Char) : (stripEnd mark text).getLast? ≠ some mark := by
  intro last
  rw [stripEnd, List.getLast?_reverse] at last
  have other := List.head?_dropWhile_not (· == mark) text.reverse
  rw [last] at other
  simp at other

theorem stripEnd_append {mark : Char} {text marks : List Char} (ends : text.getLast? ≠ some mark)
    (each : ∀ c ∈ marks, c = mark) : stripEnd mark (text ++ marks) = text := by
  have same : ∀ c ∈ marks.reverse, (c == mark) = true := fun c member =>
    beq_iff_eq.2 (each c (List.mem_reverse.1 member))
  rw [stripEnd, List.reverse_append, List.dropWhile_append_of_pos same]
  cases whole : text.reverse with
  | nil => exact (List.reverse_eq_nil_iff.1 whole).symm
  | cons c rest =>
      have solid : ¬ (c == mark) = true := by
        intro isMark
        rw [← List.head?_reverse, whole, List.head?_cons, beq_iff_eq.1 isMark] at ends
        exact ends rfl
      rw [List.dropWhile_cons, if_neg solid, ← whole, List.reverse_reverse]

/-! ## Occurrences -/

/-- A text occurs in another one exactly if the other can be cut around it. -/
theorem occursIn_eq_true_iff {part text : List Char} : occursIn part text = true ↔ part <:+: text := by
  unfold occursIn
  induction text with
  | nil => cases part <;> simp [cutAround]
  | cons c rest inductionHypothesis =>
      rw [cutAround, List.infix_cons_iff, ← inductionHypothesis]
      cases here : afterStart? part (c :: rest) with
      | some after =>
          have starts : part <+: c :: rest := ⟨after, List.isPrefixOf?_eq_some_iff_append_eq.1 here⟩
          simp [starts]
      | none =>
          have elsewhere : ¬ part <+: c :: rest := by
            rintro ⟨after, split⟩
            have starts : afterStart? part (c :: rest) = some after :=
              List.isPrefixOf?_eq_some_iff_append_eq.2 split
            rw [here] at starts
            cases starts
          simp [elsewhere]

/-- A cut around a text is made at its first occurrence, which does not begin before the first part ends. -/
theorem cutAround_eq_some_iff {mark text before after : List Char} (solid : mark ≠ []) :
    cutAround mark text = some (before, after) ↔
      text = before ++ (mark ++ after) ∧ ¬ mark <:+: before ++ mark.dropLast := by
  obtain ⟨start, last, rfl⟩ : ∃ start last, mark = start ++ [last] :=
    ⟨mark.dropLast, mark.getLast solid, (List.dropLast_append_getLast solid).symm⟩
  rw [List.dropLast_concat]
  have starts : ∀ {text after : List Char},
      afterStart? (start ++ [last]) text = some after ↔ text = start ++ [last] ++ after := by
    intro text after
    exact List.isPrefixOf?_eq_some_iff_append_eq.trans eq_comm
  induction text generalizing before with
  | nil => cases start <;> cases before <;> simp [cutAround]
  | cons c rest inductionHypothesis =>
      rw [cutAround]
      cases here : afterStart? (start ++ [last]) (c :: rest) with
      | some found =>
          have whole := starts.1 here
          constructor
          · rintro ⟨⟩
            exact ⟨whole, fun occurs => absurd occurs.length_le (by simp)⟩
          · rintro ⟨split, first⟩
            cases before with
            | nil =>
                obtain rfl := List.append_cancel_left (whole.symm.trans split)
                rfl
            | cons d more =>
                -- Otherwise the mark would begin the text, but end before the first part with it does.
                refine absurd (List.IsPrefix.isInfix ?_) first
                have marked : start ++ [last] <+: c :: rest := ⟨found, whole.symm⟩
                have longer : d :: more ++ start <+: c :: rest := ⟨last :: after, by rw [split]; simp⟩
                exact List.prefix_of_prefix_length_le marked longer (by simp)
      | none =>
          have elsewhere : ¬ start ++ [last] <+: c :: rest := by
            rintro ⟨after, split⟩
            cases here.symm.trans (starts.2 split.symm)
          constructor
          · intro cut
            rcases Option.map_eq_some_iff.1 cut with ⟨⟨more, found⟩, later, same⟩
            cases same
            rcases inductionHypothesis.1 later with ⟨rfl, first⟩
            refine ⟨rfl, fun occurs => ?_⟩
            rcases List.infix_cons_iff.1 occurs with atStart | inside
            · exact elsewhere (atStart.trans ⟨last :: found, by simp⟩)
            · exact first inside
          · rintro ⟨split, first⟩
            cases before with
            | nil => exact absurd ⟨after, split.symm⟩ elsewhere
            | cons d more =>
                obtain ⟨rfl, rfl⟩ := List.cons.inj split
                have later := inductionHypothesis.2 ⟨rfl, fun inside => first (List.infix_cons inside)⟩
                rw [later]
                rfl

/-! ## Segments -/

/-- Every character of a text is the mark between its segments, or stands in one of them. -/
theorem mem_segments {mark c : Char} {text : List Char} (member : c ∈ text) :
    c = mark ∨ ∃ segment ∈ segments mark text, c ∈ segment := by
  induction text with
  | nil => cases member
  | cons d rest inductionHypothesis =>
      unfold segments at inductionHypothesis ⊢
      rw [List.splitOnP_cons_eq_if_modifyHead]
      by_cases atMark : (d == mark) = true
      · rw [if_pos atMark]
        rcases List.mem_cons.1 member with rfl | later
        · exact Or.inl (beq_iff_eq.1 atMark)
        · exact (inductionHypothesis later).imp id fun ⟨segment, segmentMember, inside⟩ =>
            ⟨segment, List.mem_cons_of_mem _ segmentMember, inside⟩
      · rw [if_neg atMark]
        obtain ⟨first, others, split⟩ := List.exists_cons_of_ne_nil (List.splitOnP_ne_nil (· == mark) rest)
        rw [split, List.modifyHead_cons]
        rw [split] at inductionHypothesis
        rcases List.mem_cons.1 member with rfl | later
        · exact Or.inr ⟨c :: first, List.mem_cons_self, List.mem_cons_self⟩
        · refine (inductionHypothesis later).imp id fun ⟨segment, segmentMember, inside⟩ => ?_
          rcases List.mem_cons.1 segmentMember with rfl | other
          · exact ⟨d :: segment, List.mem_cons_self, List.mem_cons_of_mem d inside⟩
          · exact ⟨segment, List.mem_cons_of_mem _ other, inside⟩

private theorem mem_intersperse {α : Type} {separator item : α} {items : List α} (member : item ∈ items) :
    item ∈ items.intersperse separator := by
  induction items with
  | nil => cases member
  | cons first rest inductionHypothesis =>
      cases rest with
      | nil => exact member
      | cons second others =>
          rw [List.intersperse_cons_cons]
          rcases List.mem_cons.1 member with rfl | later
          · exact List.mem_cons_self
          · exact List.mem_cons_of_mem _ (List.mem_cons_of_mem _ (inductionHypothesis later))

/-- A text without the mark is its only segment. -/
theorem segments_of_not_mem {mark : Char} {text : List Char} (free : mark ∉ text) : segments mark text = [text] :=
  List.splitOn_eq_singleton free

theorem segments_append {mark : Char} {first : List Char} (free : mark ∉ first) (rest : List Char) :
    segments mark (first ++ mark :: rest) = first :: segments mark rest :=
  List.splitOn_append_cons_self_of_not_mem free rest

/-- The beginning of a text is a part if it holds no separating character and is followed by one or by nothing. -/
theorem mem_splitOnP_append {separates : Char → Bool} {part after : List Char}
    (plain : ∀ c ∈ part, separates c = false) (next : ∀ c ∈ after.head?, separates c = true) :
    part ∈ (part ++ after).splitOnP separates := by
  cases after with
  | nil => rw [List.append_nil, List.splitOnP_eq_singleton plain]; exact List.mem_singleton_self part
  | cons c rest =>
      rw [List.splitOnP_append_cons_of_forall_mem plain c (next c rfl)]
      exact List.mem_cons_self

/-- Where a text is split at every character of a kind, a part holds none, and reaches from one or from the beginning of
the text to the next one or to its end. -/
theorem exists_of_mem_splitOnP {separates : Char → Bool} {text part : List Char}
    (member : part ∈ text.splitOnP separates) :
    (∀ c ∈ part, separates c = false) ∧ ∃ before after, text = before ++ part ++ after ∧
      (∀ c ∈ before.getLast?, separates c = true) ∧ ∀ c ∈ after.head?, separates c = true := by
  cases found : text.find? separates with
  | none =>
      have plain : ∀ c ∈ text, separates c = false := fun c inside =>
        Bool.eq_false_iff.2 (List.find?_eq_none.1 found c inside)
      rw [List.splitOnP_eq_singleton plain, List.mem_singleton] at member
      subst member
      exact ⟨plain, [], [], by simp, nofun, nofun⟩
  | some c =>
      rcases List.find?_eq_some_iff_append.1 found with ⟨isSeparator, first, rest, rfl, passed⟩
      have plain : ∀ d ∈ first, separates d = false := fun d inside => by simpa using passed d inside
      rw [List.splitOnP_append_cons_of_forall_mem plain c isSeparator] at member
      rcases List.mem_cons.1 member with rfl | later
      · exact ⟨plain, [], c :: rest, rfl, nofun, fun d next => Option.some.inj next ▸ isSeparator⟩
      · rcases exists_of_mem_splitOnP later with ⟨partPlain, before, after, rfl, starts, ends⟩
        refine ⟨partPlain, first ++ c :: before, after, by simp, fun d last => ?_, ends⟩
        rw [List.getLast?_append_cons, List.getLast?_cons] at last
        cases previous : before.getLast? with
        | none =>
            rw [previous] at last
            exact Option.some.inj last ▸ isSeparator
        | some e =>
            rw [previous] at last
            exact Option.some.inj last ▸ starts e previous
termination_by text.length
decreasing_by
  subst_vars
  simp only [List.length_append, List.length_cons]
  omega

theorem mem_splitOnP_iff {separates : Char → Bool} {text part : List Char} :
    part ∈ text.splitOnP separates ↔ (∀ c ∈ part, separates c = false) ∧ ∃ before after,
      text = before ++ part ++ after ∧ (∀ c ∈ before.getLast?, separates c = true) ∧
        ∀ c ∈ after.head?, separates c = true := by
  refine ⟨exists_of_mem_splitOnP, ?_⟩
  rintro ⟨plain, before, after, rfl, starts, ends⟩
  rcases List.eq_nil_or_concat before with rfl | ⟨front, c, rfl⟩
  · exact mem_splitOnP_append plain ends
  · have isSeparator : separates c = true := starts c (by simp)
    rw [List.concat_eq_append, List.append_assoc, List.append_assoc, List.singleton_append,
      List.splitOnP_append_cons _ _ isSeparator]
    exact List.mem_append_right _ (mem_splitOnP_append plain ends)

theorem not_mem_of_mem_segments {mark : Char} {text segment : List Char} (member : segment ∈ segments mark text) :
    mark ∉ segment :=
  fun inside => beq_eq_false_iff_ne.1 ((exists_of_mem_splitOnP member).1 mark inside) rfl

/-- The segments of a text are the texts without the mark of which it is put together with the mark between them. -/
theorem segments_eq_iff {mark : Char} {text : List Char} {parts : List (List Char)} :
    segments mark text = parts ↔ parts ≠ [] ∧ (∀ part ∈ parts, mark ∉ part) ∧ [mark].intercalate parts = text := by
  constructor
  · rintro rfl
    exact ⟨List.splitOn_ne_nil mark text, fun _ => not_mem_of_mem_segments, List.intercalate_splitOn mark⟩
  · rintro ⟨nonempty, free, rfl⟩
    exact List.splitOn_intercalate mark free nonempty

theorem intercalate_concat (separator last : List Char) {words : List (List Char)} (inhabited : words ≠ []) :
    separator.intercalate (words ++ [last]) = separator.intercalate words ++ separator ++ last := by
  induction words with
  | nil => exact absurd rfl inhabited
  | cons first rest inductionHypothesis =>
      cases rest with
      | nil => simp
      | cons second others =>
          have later := inductionHypothesis (List.cons_ne_nil second others)
          rw [List.cons_append, List.intercalate_cons_of_ne_nil (by simp), later, List.intercalate_cons_cons]
          simp only [List.append_assoc]

/-- A segment stands in the text without interruption. -/
theorem infix_of_mem_segments {mark : Char} {text segment : List Char} (member : segment ∈ segments mark text) :
    segment <:+: text := by
  have joined : [mark].intercalate (segments mark text) = text := List.intercalate_splitOn mark
  rw [← joined]
  exact List.infix_of_mem_flatten (mem_intersperse member)

/-- The first segment stands at the beginning of the text. -/
theorem prefix_of_segments {mark : Char} {text first : List Char} {others : List (List Char)}
    (split : segments mark text = first :: others) : first <+: text := by
  have joined : [mark].intercalate (segments mark text) = text := List.intercalate_splitOn mark
  rw [← joined, split]
  cases others with
  | nil => exact ⟨[], rfl⟩
  | cons second rest => exact ⟨mark :: [mark].intercalate (second :: rest), rfl⟩

/-! ## Letter case -/

theorem isUpper_iff {c : Char} : c.isUpper = true ↔ 65 ≤ c.toNat ∧ c.toNat ≤ 90 :=
  decide_eq_true_iff

theorem isLower_iff {c : Char} : c.isLower = true ↔ 97 ≤ c.toNat ∧ c.toNat ≤ 122 :=
  Bool.and_eq_true_iff.trans (and_congr decide_eq_true_iff decide_eq_true_iff)

theorem isDigit_iff {c : Char} : c.isDigit = true ↔ 48 ≤ c.toNat ∧ c.toNat ≤ 57 :=
  Bool.and_eq_true_iff.trans (and_congr decide_eq_true_iff decide_eq_true_iff)

theorem isUpper_of_isDigit {c : Char} (digit : c.isDigit = true) : c.isUpper = false := by
  rw [Bool.eq_false_iff, Ne, isUpper_iff]
  rw [isDigit_iff] at digit
  omega

theorem isLower_of_isDigit {c : Char} (digit : c.isDigit = true) : c.isLower = false := by
  rw [Bool.eq_false_iff, Ne, isLower_iff]
  rw [isDigit_iff] at digit
  omega

theorem isUpper_of_isLower {c : Char} (letter : c.isLower = true) : c.isUpper = false := by
  rw [Bool.eq_false_iff, Ne, isUpper_iff]
  rw [isLower_iff] at letter
  omega

theorem toLower_eq_self {c : Char} (plain : c.isUpper = false) : c.toLower = c := by
  unfold Char.toLower
  refine dif_neg fun upper => ?_
  exact Bool.eq_false_iff.1 plain (isUpper_iff.2 upper)

/-- A capital turns into a small letter. -/
theorem toNat_toLower {c : Char} (upper : c.isUpper = true) : c.toLower.toNat = c.toNat + 32 := by
  have capital : c.val ≥ 'A'.val ∧ c.val ≤ 'Z'.val := isUpper_iff.1 upper
  have bound : c.toNat ≤ 90 := capital.2
  have shifted : (c.val + ('a'.val - 'A'.val)).toNat = c.toNat + 32 := by
    rw [UInt32.toNat_add]
    change (c.toNat + 32) % 2 ^ 32 = c.toNat + 32
    omega
  unfold Char.toLower
  rw [dif_pos capital]
  exact shifted

/-- A character that is no small letter is the lower case of itself only. -/
theorem eq_of_toLower_eq {c lower : Char} (same : c.toLower = lower) (plain : lower.isLower = false) :
    c = lower := by
  subst same
  cases upper : c.isUpper with
  | false => exact (toLower_eq_self upper).symm
  | true =>
      rw [Bool.eq_false_iff, Ne, isLower_iff, toNat_toLower upper] at plain
      rw [isUpper_iff] at upper
      omega

theorem isUpper_toLower (c : Char) : c.toLower.isUpper = false := by
  cases upper : c.isUpper with
  | false => rw [toLower_eq_self upper, upper]
  | true =>
      rw [Bool.eq_false_iff, Ne, isUpper_iff, toNat_toLower upper]
      rw [isUpper_iff] at upper
      omega

/-- A text without small letters is the lower case of itself only. -/
theorem eq_of_lowered_eq {text lower : List Char} (same : lowered text = lower)
    (plain : ∀ c ∈ lower, c.isLower = false) : text = lower := by
  induction text generalizing lower with
  | nil => exact same
  | cons c rest inductionHypothesis =>
      subst same
      have first : c = c.toLower := eq_of_toLower_eq rfl (plain _ List.mem_cons_self)
      have later := inductionHypothesis rfl fun d member => plain d (List.mem_cons_of_mem _ member)
      change c :: rest = c.toLower :: lowered rest
      rw [← first, ← later]

/-- A text without capitals is its own lower case. -/
theorem lowered_eq_self {text : List Char} (plain : ∀ c ∈ text, c.isUpper = false) : lowered text = text := by
  have each : ∀ c ∈ text, c.toLower = id c := fun c member => toLower_eq_self (plain c member)
  exact (List.map_congr_left each).trans (List.map_id text)

/-- A mark that is its own lower case is not in a text if it is not in its lower case. -/
theorem not_mem_of_lowered {mark : Char} (stable : mark.toLower = mark) {text : List Char}
    (absent : mark ∉ lowered text) : mark ∉ text := by
  intro member
  have image := List.mem_map_of_mem (f := Char.toLower) member
  rw [stable] at image
  exact absent image

theorem lowered_append (first second : List Char) :
    lowered (first ++ second) = lowered first ++ lowered second :=
  List.map_append

/-! ## Blanks -/

theorem isBlank_toLower (c : Char) : isBlank c.toLower = isBlank c := by
  cases upper : c.isUpper with
  | false => rw [toLower_eq_self upper]
  | true =>
      have small := toNat_toLower upper
      rw [isUpper_iff] at upper
      have solid : ∀ d : Char, 65 ≤ d.toNat → d.toNat ≤ 122 → isBlank d = false := by
        intro d low high
        simp only [isBlank, Bool.or_eq_false_iff, Bool.and_eq_false_iff, decide_eq_false_iff_not, beq_eq_false_iff_ne]
        omega
      rw [solid c (by omega) (by omega), solid c.toLower (by omega) (by omega)]

theorem isBlank_of_isDigit {c : Char} (digit : c.isDigit = true) : isBlank c = false := by
  have low : 48 ≤ c.toNat := (isDigit_iff.1 digit).1
  have high : c.toNat ≤ 57 := (isDigit_iff.1 digit).2
  simp only [isBlank, Bool.or_eq_false_iff, Bool.and_eq_false_iff, decide_eq_false_iff_not, beq_eq_false_iff_ne]
  omega

theorem isBlank_last_trim {text : List Char} {c : Char} (last : (trim text).getLast? = some c) :
    isBlank c = false := by
  rw [trim, trimRight, List.getLast?_reverse] at last
  exact head?_dropWhile_isBlank _ c last

theorem isBlank_head_trim {text : List Char} {c : Char} (first : (trim text).head? = some c) :
    isBlank c = false := by
  have beginning : trim text <+: trimLeft text := List.rdropWhile_prefix isBlank (trimLeft text)
  rcases beginning with ⟨rest, split⟩
  refine head?_dropWhile_isBlank text c ?_
  change (trimLeft text).head? = some c
  rw [← split, List.head?_append, first, Option.some_or]

/-- What is left of a text without the blanks around it stands in it without interruption. -/
theorem infix_trim (text : List Char) : trim text <:+: text :=
  (List.rdropWhile_prefix isBlank (trimLeft text)).isInfix.trans (List.dropWhile_suffix isBlank).isInfix

theorem mem_trimLeft {text : List Char} {c : Char} (member : c ∈ text) (solid : isBlank c = false) :
    c ∈ trimLeft text := by
  rw [← List.takeWhile_append_dropWhile (p := isBlank) (l := text)] at member
  rcases List.mem_append.1 member with blank | rest
  · cases solid.symm.trans (List.mem_takeWhile_imp blank)
  · exact rest

/-- Nothing but blanks is lost. -/
theorem mem_trim {text : List Char} {c : Char} (member : c ∈ text) (solid : isBlank c = false) : c ∈ trim text := by
  have reversed : c ∈ (trimLeft text).reverse := List.mem_reverse.2 (mem_trimLeft member solid)
  exact List.mem_reverse.2 (mem_trimLeft reversed solid)

/-- A text without blanks around it is left as it is. -/
theorem trim_eq_self {text : List Char} (first : ∀ c, text.head? = some c → isBlank c = false)
    (last : ∀ c, text.getLast? = some c → isBlank c = false) : trim text = text := by
  rw [trim, trimLeft_eq_self first, trimRight_eq_self last]

theorem trim_trim (text : List Char) : trim (trim text) = trim text :=
  trim_eq_self (fun _ => isBlank_head_trim) fun _ => isBlank_last_trim

theorem trimmed_trimmed (text : String) : trimmed (trimmed text) = trimmed text := by
  rw [trimmed, toList_trimmed, trim_trim]
  rfl

/-- A text without blanks around it has none around it in lower case. -/
theorem trim_lowered_trim (text : List Char) : trim (lowered (trim text)) = lowered (trim text) := by
  refine trim_eq_self (fun c first => ?_) fun c last => ?_
  · rw [lowered, List.head?_map] at first
    rcases Option.map_eq_some_iff.1 first with ⟨d, found, rfl⟩
    rw [isBlank_toLower, isBlank_head_trim found]
  · rw [lowered, List.getLast?_map] at last
    rcases Option.map_eq_some_iff.1 last with ⟨d, found, rfl⟩
    rw [isBlank_toLower, isBlank_last_trim found]

end Text
end Fleet
