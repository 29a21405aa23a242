import Mathlib.Data.List.Lex

namespace Fleet
namespace Text

/-!
# Bytes and characters

Ids are compared as texts, character by character, and elsewhere as the bytes that a text is stored in.  Both
orders agree.  The bytes of two different characters differ at a place that both of them have, and the smaller
character has the smaller byte at the first such place: the first byte of a character tells how many there are
and grows with their number, and among characters of one length the bytes are the digits of their numbers.
-/

/-- The bytes that a text is stored in. -/
def bytes (text : String) : List UInt8 :=
  text.toByteArray.data.toList

theorem bytes_eq_flatMap (text : String) : bytes text = text.toList.flatMap String.utf8EncodeChar := by
  rw [bytes, ← String.utf8Encode_toList, List.utf8Encode, List.data_toByteArray]

/-- The first place where two lists of bytes differ is one that both have, and the first list is smaller there. -/
def Diverges : List UInt8 → List UInt8 → Prop
  | first :: firsts, second :: seconds => first < second ∨ first = second ∧ Diverges firsts seconds
  | _, _ => False

/-- What follows after such a place does not matter. -/
theorem Diverges.append_lt {first second : List UInt8} (apart : Diverges first second)
    (firstRest secondRest : List UInt8) :
    first ++ firstRest < second ++ secondRest := by
  induction first generalizing second with
  | nil => cases apart
  | cons byte firsts inductionHypothesis =>
      cases second with
      | nil => cases apart
      | cons other seconds =>
          rw [List.cons_append, List.cons_append, List.cons_lt_cons_iff]
          exact apart.imp id fun later => ⟨later.1, inductionHypothesis later.2⟩

theorem diverges_encode {c d : Char} (below : c < d) :
    Diverges (String.utf8EncodeChar c) (String.utf8EncodeChar d) := by
  have less : c.val.toNat < d.val.toNat := below
  have bound : d.val.toNat < 1114112 := by
    rcases d.valid with low | ⟨_, high⟩
    · exact Nat.lt_trans low (by decide)
    · exact high
  rw [String.utf8EncodeChar.eq_1, String.utf8EncodeChar.eq_1]
  -- The ranges in which a character has one, two, three and four bytes, for both characters.
  split_ifs <;>
    simp (disch := omega) only [Diverges, UInt8.lt_iff_toNat_lt, ← UInt8.toNat_inj, UInt8.toNat_ofNat',
      Nat.mod_eq_of_lt, and_false, or_false] <;>
    omega

theorem flatMap_encode_lt {first second : List Char} (below : first < second) :
    first.flatMap String.utf8EncodeChar < second.flatMap String.utf8EncodeChar := by
  induction first generalizing second with
  | nil =>
      cases second with
      | nil => cases below
      | cons d rest =>
          obtain ⟨byte, others, encoded⟩ : ∃ byte others, String.utf8EncodeChar d = byte :: others :=
            List.exists_cons_of_ne_nil String.utf8EncodeChar_ne_nil
          rw [List.flatMap_cons, encoded]
          exact List.nil_lt_cons _ _
  | cons c rest inductionHypothesis =>
      cases second with
      | nil => cases below
      | cons d others =>
          rw [List.flatMap_cons, List.flatMap_cons]
          rcases List.cons_lt_cons_iff.1 below with smaller | ⟨rfl, later⟩
          · exact (diverges_encode smaller).append_lt _ _
          · exact List.append_left_lt (inductionHypothesis later)

/-- Texts stand in the order of their bytes. -/
theorem bytes_lt_iff {first second : String} : bytes first < bytes second ↔ first < second := by
  have increasing : ∀ {first second : String}, first < second → bytes first < bytes second := by
    intro first second below
    rw [bytes_eq_flatMap, bytes_eq_flatMap]
    exact flatMap_encode_lt below
  refine ⟨fun below => ?_, increasing⟩
  by_contra notBelow
  by_cases same : first = second
  · exact List.lt_irrefl _ (same ▸ below)
  · have above : second < first :=
      String.not_le.1 fun low => same (String.le_antisymm low (String.not_lt.1 notBelow))
    exact List.lt_asymm below (increasing above)

end Text
end Fleet
