import Fleet.Text.Blank

namespace Fleet
namespace Text

/-!
# Cutting text

The few ways in which addresses, port specifications, unit names and paths are taken apart: at the
first or the last occurrence of a mark, at every occurrence, at a fixed beginning or end, after a number of bytes.
Every cut says what it lost: nothing but the mark itself.
-/

/-- Cut at the first occurrence of a character, which belongs to neither part. -/
def cutFirst (mark : Char) : List Char → Option (List Char × List Char)
  | [] => none
  | c :: rest =>
      if c = mark then some ([], rest)
      else (cutFirst mark rest).map fun parts => (c :: parts.1, parts.2)

/-- Cut at the last occurrence of a character, which belongs to neither part. -/
def cutLast (mark : Char) : List Char → Option (List Char × List Char)
  | [] => none
  | c :: rest =>
      match cutLast mark rest with
      | some parts => some (c :: parts.1, parts.2)
      | none => if c = mark then some ([], rest) else none

theorem eq_of_cutFirst {mark : Char} {text before after : List Char}
    (cut : cutFirst mark text = some (before, after)) : text = before ++ mark :: after := by
  induction text generalizing before with
  | nil => simp [cutFirst] at cut
  | cons c rest inductionHypothesis =>
      unfold cutFirst at cut
      by_cases here : c = mark
      · rw [if_pos here] at cut
        simp only [Option.some.injEq, Prod.mk.injEq] at cut
        obtain ⟨rfl, rfl⟩ := cut
        simp [here]
      · rw [if_neg here] at cut
        obtain ⟨parts, found, equal⟩ := Option.map_eq_some_iff.1 cut
        simp only [Prod.mk.injEq] at equal
        obtain ⟨rfl, rfl⟩ := equal
        simp [inductionHypothesis found]

theorem eq_of_cutLast {mark : Char} {text before after : List Char}
    (cut : cutLast mark text = some (before, after)) : text = before ++ mark :: after := by
  induction text generalizing before with
  | nil => simp [cutLast] at cut
  | cons c rest inductionHypothesis =>
      unfold cutLast at cut
      cases later : cutLast mark rest with
      | some parts =>
          rw [later] at cut
          simp only [Option.some.injEq, Prod.mk.injEq] at cut
          obtain ⟨rfl, rfl⟩ := cut
          simp [inductionHypothesis later]
      | none =>
          rw [later] at cut
          by_cases here : c = mark
          · simp only [if_pos here, Option.some.injEq, Prod.mk.injEq] at cut
            obtain ⟨rfl, rfl⟩ := cut
            simp [here]
          · simp [if_neg here] at cut

/-- Why no text can be cut after some number of bytes. -/
inductive Misplaced where
  | insideCharacter
  | pastEnd
  deriving DecidableEq

/-- The number of bytes that a text takes in UTF-8. -/
def byteSize : List Char → Nat
  | [] => 0
  | c :: rest => c.utf8Size + byteSize rest

/-- Cut after a number of bytes, which is possible at the ends of characters only. -/
def cutAt : Nat → List Char → Except Misplaced (List Char × List Char)
  | 0, text => .ok ([], text)
  | _ + 1, [] => .error .pastEnd
  | offset + 1, c :: rest =>
      if c.utf8Size ≤ offset + 1 then
        (cutAt (offset + 1 - c.utf8Size) rest).map fun parts => (c :: parts.1, parts.2)
      else .error .insideCharacter

theorem byteSize_cons (c : Char) (text : List Char) : byteSize (c :: text) = c.utf8Size + byteSize text := rfl

/-- At the end of a part of a text it can be cut. -/
theorem cutAt_append (before after : List Char) : cutAt (byteSize before) (before ++ after) = .ok (before, after) := by
  induction before with
  | nil => rw [byteSize, List.nil_append, cutAt]
  | cons c rest inductionHypothesis =>
      have positive := c.utf8Size_pos
      obtain ⟨offset, size⟩ : ∃ offset, byteSize (c :: rest) = offset + 1 :=
        Nat.exists_eq_add_one.2 (Nat.lt_of_lt_of_le positive (Nat.le_add_right _ _))
      have within : c.utf8Size ≤ offset + 1 := by rw [← size, byteSize_cons]; exact Nat.le_add_right _ _
      rw [size, List.cons_append, cutAt, if_pos within, ← size, byteSize_cons, Nat.add_sub_cancel_left,
        inductionHypothesis]
      rfl

/-- What follows a fixed beginning, when the text has it. -/
def afterStart? (start : List Char) (text : List Char) : Option (List Char) :=
  start.isPrefixOf? text

/-- What precedes a fixed ending, when the text has it. -/
def beforeEnd? (ending : List Char) (text : List Char) : Option (List Char) :=
  ending.isSuffixOf? text

/-- Cut around the first occurrence of a whole text, which belongs to neither part. -/
def cutAround (mark : List Char) : List Char → Option (List Char × List Char)
  | [] => if mark.isEmpty then some ([], []) else none
  | c :: rest =>
      match afterStart? mark (c :: rest) with
      | some after => some ([], after)
      | none => (cutAround mark rest).map fun parts => (c :: parts.1, parts.2)

def occursIn (part : List Char) (text : List Char) : Bool :=
  (cutAround part text).isSome

/-- The segments between the occurrences of a character; there is always at least one. -/
def segments (mark : Char) (text : List Char) : List (List Char) :=
  text.splitOnP (· == mark)

/-- The pieces between separating characters, empty pieces left out. -/
def pieces (separates : Char → Bool) (text : List Char) : List (List Char) :=
  (text.splitOnP separates).filter (fun piece => !piece.isEmpty)

/-- The text without the occurrences of one character that it starts with. -/
def stripStart (mark : Char) (text : List Char) : List Char :=
  text.dropWhile (· == mark)

/-- The text without the occurrences of one character that it ends with. -/
def stripEnd (mark : Char) (text : List Char) : List Char :=
  (text.reverse.dropWhile (· == mark)).reverse

/-- The text with the letters `A` to `Z` in lower case and every other character as it stands. -/
def lowered (text : List Char) : List Char :=
  text.map Char.toLower

def lowerCase (text : String) : String :=
  String.ofList (lowered text.toList)

/-- Equality that disregards the case of the letters `A` to `Z`. -/
def sameButCase (left right : String) : Bool :=
  lowerCase left == lowerCase right

end Text
end Fleet
