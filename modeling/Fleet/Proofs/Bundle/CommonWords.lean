import Fleet.Bundle.Naming
import Fleet.Proofs.Text

namespace Fleet
namespace Naming

/-!
# Words that names have in common

The name that several services give to their bundle is found in two steps.  First comes the longest text that all of
their names start with; it is measured in bytes, by comparing every name with the first one.  If it leaves a word open,
it is cut back to the last separator in it.  Both steps find the longest text of their kind: of two texts that one name
starts with, one starts with the other, and a text that is shorter than the longest common one is followed by the same
character in all names.  And since all cuts are made behind texts that the names start with, none is made inside a
character, however many bytes the characters have.
-/

/-- A text that all names start with, and behind which every name ends or goes on with a separator. -/
def Heads (names : List (List Char)) (start : List Char) : Prop :=
  ∀ name ∈ names, ∃ rest, name = start ++ rest ∧ ∀ c, rest.head? = some c → c ∈ ['-', '_', '.']

/-- The longest text of this kind. -/
def LongestHead (names : List (List Char)) (start : List Char) : Prop :=
  Heads names start ∧ ∀ other, Heads names other → other.length ≤ start.length

/-- What is left of a text without the separators at its two ends. -/
def Trimmed (text words : List Char) : Prop :=
  ∃ before after, text = before ++ words ++ after ∧ (∀ c ∈ before ++ after, c ∈ ['-', '_', '.']) ∧
    (∀ c, words.head? = some c → c ∉ ['-', '_', '.']) ∧ ∀ c, words.getLast? = some c → c ∉ ['-', '_', '.']

variable {names : List (List Char)} {shared start other : List Char}

theorem isSeparator_iff {c : Char} : isSeparator c = true ↔ c ∈ ['-', '_', '.'] := by
  simp [isSeparator, or_assoc]

theorem not_isSeparator_iff {c : Char} : isSeparator c = false ↔ c ∉ ['-', '_', '.'] := by
  rw [← isSeparator_iff, Bool.not_eq_true]

/-! ## The longest common text -/

/-- The longest text that all names start with. -/
structure Shared (names : List (List Char)) (shared : List Char) : Prop where
  starts : ∀ name ∈ names, shared <+: name
  longest : ∀ other, (∀ name ∈ names, other <+: name) → other <+: shared

theorem exists_sharedSize (left right : List Char) :
    ∃ shared, sharedSize left right = Text.byteSize shared ∧ shared <+: left ∧ shared <+: right ∧
      ∀ other, other <+: left → other <+: right → other <+: shared := by
  fun_induction sharedSize left right with
  | case1 left a right inductionHypothesis =>
      rcases inductionHypothesis with ⟨shared, size, inLeft, inRight, longest⟩
      refine ⟨a :: shared, by rw [size, Text.byteSize_cons], List.cons_prefix_cons.2 ⟨rfl, inLeft⟩,
        List.cons_prefix_cons.2 ⟨rfl, inRight⟩, fun other otherLeft otherRight => ?_⟩
      cases other with
      | nil => exact List.nil_prefix
      | cons c rest =>
          rw [List.cons_prefix_cons] at otherLeft otherRight
          exact List.cons_prefix_cons.2 ⟨otherLeft.1, longest rest otherLeft.2 otherRight.2⟩
  | case2 a left b right different =>
      refine ⟨[], rfl, List.nil_prefix, List.nil_prefix, fun other otherLeft otherRight => ?_⟩
      cases other with
      | nil => exact List.nil_prefix
      | cons c rest =>
          have inLeft := (List.cons_prefix_cons.1 otherLeft).1
          have inRight := (List.cons_prefix_cons.1 otherRight).1
          exact absurd (inLeft.symm.trans inRight) different
  | case3 left right ended =>
      refine ⟨[], rfl, List.nil_prefix, List.nil_prefix, fun other otherLeft otherRight => ?_⟩
      cases other with
      | nil => exact List.nil_prefix
      | cons c rest =>
          rcases otherLeft with ⟨leftRest, rfl⟩
          rcases otherRight with ⟨rightRest, rfl⟩
          exact (ended _ _ _ _ rfl rfl).elim

/-- The least of the sizes that two texts of one name have is that of the text which the other one starts with. -/
theorem exists_foldl_min (first : List Char) (others : List (List Char)) (begins : start <+: first) :
    ∃ shared, others.foldl (fun size name => min (sharedSize first name) size) (Text.byteSize start) =
        Text.byteSize shared ∧ shared <+: start ∧ (∀ name ∈ others, shared <+: name) ∧
      ∀ other, other <+: start → (∀ name ∈ others, other <+: name) → other <+: shared := by
  induction others generalizing start with
  | nil => exact ⟨start, rfl, List.prefix_refl start, nofun, fun _ within _ => within⟩
  | cons name rest inductionHypothesis =>
      rcases exists_sharedSize first name with ⟨both, size, inFirst, inName, longest⟩
      rw [List.foldl_cons, size]
      rcases List.prefix_or_prefix_of_prefix inFirst begins with shorter | longer
      · rw [Nat.min_eq_left (Text.byteSize_le_of_prefix shorter)]
        rcases inductionHypothesis inFirst with ⟨shared, least, within, inRest, greatest⟩
        refine ⟨shared, least, within.trans shorter, List.forall_mem_cons.2 ⟨within.trans inName, inRest⟩,
          fun other otherStart otherNames => ?_⟩
        rw [List.forall_mem_cons] at otherNames
        exact greatest other (longest other (otherStart.trans begins) otherNames.1) otherNames.2
      · rw [Nat.min_eq_right (Text.byteSize_le_of_prefix longer)]
        rcases inductionHypothesis begins with ⟨shared, least, within, inRest, greatest⟩
        refine ⟨shared, least, within, List.forall_mem_cons.2 ⟨(within.trans longer).trans inName, inRest⟩,
          fun other otherStart otherNames => ?_⟩
        exact greatest other otherStart (List.forall_mem_cons.1 otherNames).2

theorem exists_sharedStart (first : List Char) (others : List (List Char)) :
    ∃ shared, sharedStart first others = .ok shared ∧ Shared (first :: others) shared := by
  rcases exists_foldl_min first others (List.prefix_refl first) with ⟨shared, size, inFirst, inOthers, longest⟩
  refine ⟨shared, ?_, List.forall_mem_cons.2 ⟨inFirst, inOthers⟩, fun other inNames => ?_⟩
  · unfold sharedStart
    dsimp only
    rw [size, Text.cutAt_of_prefix inFirst]
    rfl
  · rw [List.forall_mem_cons] at inNames
    exact longest other inNames.1 inNames.2

/-! ## Whole words -/

theorem isWordEnd_iff {rest : List Char} :
    isWordEnd rest = true ↔ ∀ c, rest.head? = some c → c ∈ ['-', '_', '.'] := by
  cases rest with
  | nil => simp [isWordEnd]
  | cons c rest => simp [isWordEnd, isSeparator_iff]

theorem heads_iff :
    Heads names start ↔ ∀ name ∈ names, start <+: name ∧ isWordEnd (name.drop start.length) = true := by
  refine forall₂_congr fun name _ => ?_
  constructor
  · rintro ⟨rest, rfl, follows⟩
    rw [List.drop_left]
    exact ⟨List.prefix_append start rest, isWordEnd_iff.2 follows⟩
  · rintro ⟨⟨rest, rfl⟩, follows⟩
    rw [List.drop_left] at follows
    exact ⟨rest, rfl, isWordEnd_iff.1 follows⟩

/-- Behind a text that they start with, all names can be cut. -/
theorem endsWord_eq (starts : ∀ name ∈ names, start <+: name) :
    endsWord start names = .ok (names.all fun name => isWordEnd (name.drop start.length)) := by
  induction names with
  | nil => rfl
  | cons name rest inductionHypothesis =>
      rw [List.forall_mem_cons] at starts
      have later := inductionHypothesis starts.2
      unfold endsWord at later ⊢
      rw [List.allM, Text.cutAt_of_prefix starts.1, List.all_cons]
      cases here : isWordEnd (name.drop start.length) with
      | true => simpa [Except.map, here, bind, Except.bind] using later
      | false => simp [Except.map, here, bind, Except.bind, pure, Except.pure]

/-- The last separator of a text, or none. -/
theorem lastSeparator?_cases (text : List Char) :
    (∃ before c after, text = before ++ c :: after ∧ isSeparator c = true ∧ (∀ d ∈ after, isSeparator d = false) ∧
        lastSeparator? text = some (Text.byteSize before)) ∨
      (∀ c ∈ text, isSeparator c = false) ∧ lastSeparator? text = none := by
  induction text with
  | nil => exact Or.inr ⟨nofun, rfl⟩
  | cons first rest inductionHypothesis =>
      rcases inductionHypothesis with ⟨before, c, after, split, separates, plain, last⟩ | ⟨plain, absent⟩
      · refine Or.inl ⟨first :: before, c, after, by rw [split]; rfl, separates, plain, ?_⟩
        rw [lastSeparator?, last, Text.byteSize_cons]
      · cases here : isSeparator first with
        | true => exact Or.inl ⟨[], first, rest, rfl, here, plain, by rw [lastSeparator?, absent]; exact if_pos here⟩
        | false =>
            refine Or.inr ⟨List.forall_mem_cons.2 ⟨here, plain⟩, ?_⟩
            rw [lastSeparator?, absent]
            exact if_neg (Bool.eq_false_iff.1 here)

/-- A shorter text that ends a word in all names has a separator behind it in their longest common text. -/
theorem Shared.exists_separator (shares : Shared names shared) (inhabited : names ≠ [])
    (unfinished : ¬ Heads names shared) (heads : Heads names other) :
    ∃ c tail, shared = other ++ c :: tail ∧ isSeparator c = true := by
  have ends := heads_iff.1 heads
  rcases shares.longest other fun name member => (ends name member).1 with ⟨tail, rfl⟩
  cases tail with
  | nil => exact absurd (by rwa [List.append_nil]) unfinished
  | cons c tail =>
      rcases List.exists_mem_of_ne_nil names inhabited with ⟨name, member⟩
      rcases shares.starts name member with ⟨rest, rfl⟩
      have next := (ends _ member).2
      rw [List.append_assoc, List.drop_left] at next
      exact ⟨c, tail, rfl, next⟩

theorem Shared.longestHead_of_heads (shares : Shared names shared) (heads : Heads names shared) :
    LongestHead names shared :=
  ⟨heads, fun other otherHeads =>
    (shares.longest other fun name member => (heads_iff.1 otherHeads name member).1).length_le⟩

/-- A text that leaves a word open is cut back to its last separator. -/
theorem Shared.longestHead_of_last {before after : List Char} {c : Char}
    (shares : Shared names (before ++ c :: after)) (inhabited : names ≠ [])
    (unfinished : ¬ Heads names (before ++ c :: after)) (separates : isSeparator c = true)
    (plain : ∀ d ∈ after, isSeparator d = false) : LongestHead names before := by
  refine ⟨fun name member => ?_, fun other heads => ?_⟩
  · rcases shares.starts name member with ⟨rest, rfl⟩
    refine ⟨c :: after ++ rest, by rw [List.append_assoc], fun d next => ?_⟩
    cases next
    exact isSeparator_iff.1 separates
  · rcases shares.exists_separator inhabited unfinished heads with ⟨d, tail, split, otherSeparates⟩
    rcases List.append_eq_append_iff.1 split with ⟨gap, longer, rest⟩ | ⟨gap, shorter, _⟩
    · cases gap with
      | nil => rw [longer, List.append_nil]
      | cons e gap =>
          -- The separator behind the other text would stand behind the last one.
          cases rest
          exact absurd (plain d (by simp)) (by simp [otherSeparates])
    · rw [shorter, List.length_append]
      exact Nat.le_add_right _ _

/-! ## Trimming -/

theorem dropWhile_eq_self {text : List Char} (first : ∀ c, text.head? = some c → isSeparator c = false) :
    text.dropWhile isSeparator = text := by
  cases text with
  | nil => rfl
  | cons c rest => rw [List.dropWhile_cons, first c rfl, if_neg Bool.false_ne_true]

theorem isSeparator_head {text : List Char} {c : Char} (first : (text.dropWhile isSeparator).head? = some c) :
    isSeparator c = false := by
  have solid := List.head?_dropWhile_not isSeparator text
  rw [first] at solid
  exact solid

theorem trimmed_trimSeparators (text : List Char) : Trimmed text (trimSeparators text) := by
  let middle := text.dropWhile isSeparator
  refine ⟨text.takeWhile isSeparator, middle.rtakeWhile isSeparator, ?_, fun c member => ?_, fun c first => ?_,
    fun c last => ?_⟩
  · rw [List.append_assoc]
    change text = text.takeWhile isSeparator ++ (middle.rdropWhile isSeparator ++ middle.rtakeWhile isSeparator)
    rw [List.rdropWhile_append_rtakeWhile, List.takeWhile_append_dropWhile]
  · refine isSeparator_iff.1 ?_
    rcases List.mem_append.1 member with front | back
    · exact List.mem_takeWhile_imp front
    · exact List.mem_rtakeWhile_imp (p := isSeparator) back
  · have beginning : trimSeparators text <+: middle := List.rdropWhile_prefix isSeparator middle
    rcases beginning with ⟨rest, split⟩
    have next : middle.head? = some c := by rw [← split, List.head?_append, first, Option.some_or]
    exact not_isSeparator_iff.1 (isSeparator_head next)
  · rw [trimSeparators, List.getLast?_reverse] at last
    exact not_isSeparator_iff.1 (isSeparator_head last)

/-- Trimming has one outcome. -/
theorem Trimmed.eq {text words : List Char} (trimmed : Trimmed text words) : trimSeparators text = words := by
  rcases trimmed with ⟨before, after, rfl, separators, first, last⟩
  rw [List.forall_mem_append] at separators
  have front : ∀ c ∈ before, isSeparator c = true := fun c member => isSeparator_iff.2 (separators.1 c member)
  have back : ∀ c ∈ after.reverse, isSeparator c = true := fun c member =>
    isSeparator_iff.2 (separators.2 c (List.mem_reverse.1 member))
  have backwards : (after.reverse ++ words.reverse).dropWhile isSeparator = words.reverse := by
    rw [List.dropWhile_append_of_pos back]
    refine dropWhile_eq_self fun c ends => not_isSeparator_iff.2 (last c ?_)
    rw [← ends, List.head?_reverse]
  unfold trimSeparators
  rw [List.append_assoc, List.dropWhile_append_of_pos front]
  cases words with
  | nil =>
      have nothing : after.dropWhile isSeparator = [] :=
        List.dropWhile_eq_nil_iff.2 fun c member => back c (List.mem_reverse.2 member)
      rw [List.nil_append, nothing]
      rfl
  | cons c rest =>
      have solid : ((c :: rest) ++ after).dropWhile isSeparator = (c :: rest) ++ after :=
        dropWhile_eq_self fun d next => not_isSeparator_iff.2 (first d next)
      rw [solid, List.reverse_append, backwards, List.reverse_reverse]

/-! ## The words in common -/

/-- A text that is common to all names is cut back to the longest one behind which all names are at the end of a word,
if there is one. -/
theorem Shared.exists_wholeWords (shares : Shared names shared) (inhabited : names ≠ []) :
    ∃ start, wholeWords shared names = .ok start ∧
      (LongestHead names start ∨ start = [] ∧ ∀ other, ¬ Heads names other) := by
  unfold wholeWords
  rw [endsWord_eq shares.starts]
  cases whole : names.all fun name => isWordEnd (name.drop shared.length) with
  | true =>
      refine ⟨shared, rfl, Or.inl (shares.longestHead_of_heads (heads_iff.2 fun name member => ?_))⟩
      exact ⟨shares.starts name member, List.all_eq_true.1 whole name member⟩
  | false =>
      have unfinished : ¬ Heads names shared := fun heads =>
        Bool.false_ne_true (whole.symm.trans (List.all_eq_true.2 fun name member => (heads_iff.1 heads name member).2))
      change ∃ start, withoutLastWord shared = .ok start ∧ _
      unfold withoutLastWord
      rcases lastSeparator?_cases shared with ⟨before, c, after, split, separates, plain, last⟩ | ⟨plain, absent⟩
      · rw [last, split]
        rw [split] at shares unfinished
        refine ⟨before, ?_, Or.inl (shares.longestHead_of_last inhabited unfinished separates plain)⟩
        dsimp only
        rw [Text.cutAt_append]
        rfl
      · rw [absent]
        refine ⟨[], rfl, Or.inr ⟨rfl, fun other heads => ?_⟩⟩
        rcases shares.exists_separator inhabited unfinished heads with ⟨c, tail, split, separates⟩
        exact absurd (plain c (by simp [split])) (by simp [separates])

theorem LongestHead.unique {first : List Char} (member : first ∈ names) (longest : LongestHead names start)
    (others : LongestHead names other) : start = other := by
  have starts := (heads_iff.1 longest.1 first member).1
  have otherStarts := (heads_iff.1 others.1 first member).1
  exact (List.prefix_of_prefix_length_le starts otherStarts (others.2 start longest.1)).eq_of_length
    (Nat.le_antisymm (others.2 start longest.1) (longest.2 other others.1))

/-- No cut is ever misplaced, whatever the names.  The words that names have in common are those of the longest text
behind which each of them ends or goes on with a separator, without separators at its ends; and there are none exactly
if nothing is left of it. -/
theorem commonWords_longest (first : List Char) (others : List (List Char)) :
    ∃ result, commonWords (first :: others) = .ok result ∧
      (∀ words, result = some words ↔
        words ≠ [] ∧ ∃ start, LongestHead (first :: others) start ∧ Trimmed start words) ∧
      (result = none ↔ ∀ start words, LongestHead (first :: others) start → Trimmed start words → words = []) := by
  rcases exists_sharedStart first others with ⟨shared, found, shares⟩
  rcases shares.exists_wholeWords (List.cons_ne_nil first others) with ⟨start, cut, longest⟩
  have computed : commonWords (first :: others) =
      .ok (if (trimSeparators start).isEmpty then none else some (trimSeparators start)) := by
    rw [commonWords, found]
    change (wholeWords shared (first :: others) >>= _) = _
    rw [cut]
    rfl
  -- Whatever else is the longest text of its kind is the one that was found.
  have words_eq : ∀ {other words}, LongestHead (first :: others) other → Trimmed other words →
      trimSeparators start = words := by
    intro other words otherLongest trimmed
    rcases longest with known | ⟨_, never⟩
    · rw [known.unique List.mem_cons_self otherLongest]
      exact trimmed.eq
    · exact absurd otherLongest.1 (never other)
  cases words : trimSeparators start with
  | nil =>
      rw [words] at computed words_eq
      refine ⟨none, computed, fun words => ⟨nofun, ?_⟩, iff_of_true rfl fun other words otherLongest trimmed => ?_⟩
      · rintro ⟨solid, other, otherLongest, trimmed⟩
        exact absurd (words_eq otherLongest trimmed).symm solid
      · exact (words_eq otherLongest trimmed).symm
  | cons c rest =>
      have known : LongestHead (first :: others) start :=
        longest.resolve_right fun empty => by rw [empty.1] at words; cases words
      have trimmed : Trimmed start (c :: rest) := words ▸ trimmed_trimSeparators start
      rw [words] at computed words_eq
      refine ⟨some (c :: rest), computed, fun words => ⟨?_, ?_⟩, iff_of_false nofun fun nothing => ?_⟩
      · rintro ⟨⟩
        exact ⟨List.cons_ne_nil c rest, start, known, trimmed⟩
      · rintro ⟨_, other, otherLongest, otherTrimmed⟩
        exact congrArg some (words_eq otherLongest otherTrimmed)
      · exact List.cons_ne_nil c rest (nothing start _ known trimmed)

/-- Characters of two bytes, the first of which is the same. -/
example : commonWords ["-größe.ä".toList, "-größe.ö-x".toList] = .ok (some "größe".toList) := by
  decide

end Naming
end Fleet
