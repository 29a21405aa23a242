import Fleet.Number.Numeral
import Fleet.Proofs.Text

namespace Fleet
namespace Number

/-!
# Decimal numerals

A decimal numeral is a text of digits, with a plus sign in front of it where that is allowed, and the text
of a number is the numeral that reads back as it.  So a port that was written behind an address is found
there again, and no mark of an address is ever taken for a part of a number.
-/

/-- In base ten the digits are the ten digits. -/
theorem digitValue_ten (c : Char) :
    digitValue 10 c = if c.isDigit then some (c.toNat - '0'.toNat) else none := by
  unfold digitValue
  by_cases digit : c.isDigit = true
  · have within : '0' ≤ c ∧ c ≤ '9' := Text.isDigit_iff.1 digit
    have small : c.toNat ≤ '9'.toNat := within.2
    rw [if_pos digit, if_pos within, if_pos]
    simp at small ⊢
    omega
  · have outside : ¬('0' ≤ c ∧ c ≤ '9') := fun within => digit (Text.isDigit_iff.2 within)
    rw [if_neg digit, if_neg outside, if_neg]
    split
    · exact Nat.not_lt_of_ge (Nat.le_add_left 10 _)
    · split
      · exact Nat.not_lt_of_ge (Nat.le_add_left 10 _)
      · decide

theorem digitsFrom_ten {digits : List Char} (each : ∀ c ∈ digits, c.isDigit = true) (value : Nat) :
    digitsFrom 10 value digits = some (Nat.ofDigitChars 10 digits value) := by
  induction digits generalizing value with
  | nil => rfl
  | cons c rest inductionHypothesis =>
      rw [digitsFrom, digitValue_ten, if_pos (each c List.mem_cons_self), Nat.ofDigitChars_cons, Nat.mul_comm 10]
      exact inductionHypothesis (fun d member => each d (List.mem_cons_of_mem _ member)) _

theorem isDigit_of_digitsFrom {text : List Char} {value n : Nat} (reads : digitsFrom 10 value text = some n) :
    ∀ c ∈ text, c.isDigit = true := by
  induction text generalizing value with
  | nil => exact fun _ member => nomatch member
  | cons c rest inductionHypothesis =>
      rw [digitsFrom, digitValue_ten] at reads
      by_cases digit : c.isDigit = true
      · rw [if_pos digit] at reads
        exact List.forall_mem_cons.2 ⟨digit, inductionHypothesis reads⟩
      · rw [if_neg digit] at reads
        cases reads

theorem isDigit_of_natural? {text : List Char} {n : Nat} (reads : natural? 10 text = some n) :
    ∀ c ∈ text, c.isDigit = true := by
  unfold natural? at reads
  split at reads
  · cases reads
  · exact isDigit_of_digitsFrom reads

theorem isDigit_of_mem_toString {n : Nat} {c : Char} (member : c ∈ (toString n).toList) : c.isDigit = true := by
  rw [show (toString n).toList = Nat.toDigits 10 n from Nat.toList_repr] at member
  exact Nat.isDigit_of_mem_toDigits (by decide) (by decide) member

/-- The decimal text of a number reads as the number. -/
theorem natural?_toString (n : Nat) : natural? 10 (toString n).toList = some n := by
  have nonempty : (Nat.toDigits 10 n).isEmpty = false := by simp
  unfold natural?
  rw [digitsFrom_ten fun _ => isDigit_of_mem_toString,
    show (toString n).toList = Nat.toDigits 10 n from Nat.toList_repr, nonempty, Nat.ofDigitChars_ten_toDigits]
  rfl

/-- A text that does not start with a plus sign reads alike with and without one allowed. -/
theorem unsigned?_eq_natural? {text : List Char} (bare : text.head? ≠ some '+') :
    unsigned? 10 text = natural? 10 text := by
  unfold unsigned?
  split
  · exact absurd rfl bare
  · rfl

theorem isNumeral_of_natural? {digits : List Char} {n : Nat} (reads : natural? 10 digits = some n) :
    isNumeral digits = true := by
  have each : digits.all Char.isDigit = true := List.all_eq_true.2 (isDigit_of_natural? reads)
  unfold natural? at reads
  split at reads
  · cases reads
  · rename_i nonempty
    rw [isNumeral, each, Bool.and_true, Bool.not_eq_true']
    exact Bool.eq_false_iff.2 nonempty

/-- A natural number is read of a numeral, and is what its digits say. -/
theorem natural?_eq_some_iff {digits : List Char} {n : Nat} :
    natural? 10 digits = some n ↔ isNumeral digits = true ∧ Nat.ofDigitChars 10 digits 0 = n := by
  constructor
  · intro reads
    have each := isDigit_of_natural? reads
    refine ⟨isNumeral_of_natural? reads, ?_⟩
    unfold natural? at reads
    split at reads
    · cases reads
    · exact Option.some.inj ((digitsFrom_ten each 0).symm.trans reads)
  · rintro ⟨numeral, rfl⟩
    rcases Bool.and_eq_true_iff.1 numeral with ⟨nonempty, each⟩
    unfold natural?
    rw [if_neg (by simpa using nonempty), digitsFrom_ten (List.all_eq_true.1 each)]

/-! ## Signs -/

/-- A numeral has no sign of its own. -/
theorem head?_ne_of_natural? {digits : List Char} {n : Nat} (reads : natural? 10 digits = some n) {sign : Char}
    (noDigit : sign.isDigit = false) : digits.head? ≠ some sign := by
  intro first
  have digit := isDigit_of_natural? reads sign (List.mem_of_head? first)
  rw [noDigit] at digit
  cases digit

theorem integer?_of_natural? {digits : List Char} {n : Nat} (reads : natural? 10 digits = some n) :
    integer? 10 digits = some (Int.ofNat n) := by
  unfold integer?
  split
  · exact absurd rfl (head?_ne_of_natural? reads (by decide))
  · exact absurd rfl (head?_ne_of_natural? reads (by decide))
  · rw [reads]
    rfl

/-- An unsigned number is a numeral, with a plus sign in front of it or without. -/
theorem unsigned?_eq_some_iff {text : List Char} {n : Nat} :
    unsigned? 10 text = some n ↔
      ∃ digits, (text = digits ∨ text = '+' :: digits) ∧ natural? 10 digits = some n := by
  constructor
  · intro reads
    unfold unsigned? at reads
    split at reads
    · exact ⟨_, Or.inr rfl, reads⟩
    · exact ⟨_, Or.inl rfl, reads⟩
  · rintro ⟨digits, plain | signed, reads⟩
    · rw [plain, unsigned?_eq_natural? (head?_ne_of_natural? reads (by decide)), reads]
    · rw [signed, unsigned?, reads]

/-- A number above zero is read alike, whether or not a minus sign is allowed. -/
theorem unsigned?_eq_some_of_integer? {text : List Char} {n : Int} (reads : integer? 10 text = some n)
    (positive : 0 < n) : ∃ m, unsigned? 10 text = some m ∧ n = Int.ofNat m := by
  unfold integer? at reads
  split at reads
  · rcases Option.map_eq_some_iff.1 reads with ⟨m, _, rfl⟩
    exact absurd positive (Int.not_lt.2 (Int.neg_nonpos_of_nonneg (Int.natCast_nonneg m)))
  · rcases Option.map_eq_some_iff.1 reads with ⟨m, found, rfl⟩
    exact ⟨m, found, rfl⟩
  · rcases Option.map_eq_some_iff.1 reads with ⟨m, found, rfl⟩
    exact ⟨m, unsigned?_eq_some_iff.2 ⟨_, Or.inl rfl, found⟩, rfl⟩

theorem integer?_of_unsigned? {text : List Char} {n : Nat} (reads : unsigned? 10 text = some n) :
    integer? 10 text = some (Int.ofNat n) := by
  rcases unsigned?_eq_some_iff.1 reads with ⟨digits, rfl | rfl, value⟩
  · exact integer?_of_natural? value
  · rw [integer?, value]
    rfl

/-- An unsigned number consists of digits, and of a plus sign in front of them. -/
theorem mem_of_unsigned? {text : List Char} {n : Nat} (reads : unsigned? 10 text = some n) :
    ∀ c ∈ text, c = '+' ∨ c.isDigit = true := by
  intro c member
  rcases unsigned?_eq_some_iff.1 reads with ⟨digits, rfl | rfl, value⟩
  · exact Or.inr (isDigit_of_natural? value c member)
  · exact (List.mem_cons.1 member).imp_right (isDigit_of_natural? value c)

theorem not_mem_of_unsigned? {text : List Char} {n : Nat} {mark : Char} (reads : unsigned? 10 text = some n)
    (noPlus : mark ≠ '+') (noDigit : mark.isDigit = false) : mark ∉ text := by
  intro member
  rcases mem_of_unsigned? reads mark member with plus | digit
  · exact noPlus plus
  · rw [noDigit] at digit
    cases digit

/-! ## Words of 16 bits -/

theorem fitsSigned64_ofNat {n : Nat} (small : n < 65536) : fitsSigned64 (Int.ofNat n) = true := by
  have large : (65536 : Int) ≤ Int.ofNat (twoTo 63) := by decide
  have value : Int.ofNat n < 65536 := Int.ofNat_lt.2 small
  have positive : 0 ≤ Int.ofNat n := Int.natCast_nonneg n
  unfold fitsSigned64
  simp only [Bool.and_eq_true, decide_eq_true_iff]
  omega

/-- The decimal text of a word reads as the word. -/
theorem word16?_toString (word : UInt16) : word16? (toString word.toNat).toList = some word := by
  have bare : (toString word.toNat).toList.head? ≠ some '+' := by
    intro plus
    have digit := isDigit_of_mem_toString (List.mem_of_head? plus)
    revert digit
    decide
  unfold word16?
  rw [unsigned?_eq_natural? bare, natural?_toString]
  simp only [if_pos word.toNat_lt, UInt16.ofNat_toNat]

/-- A text is a numeral for a word, with a plus sign in front of it or without. -/
def Writes (text : List Char) (word : UInt16) : Prop :=
  ∃ digits, (text = digits ∨ text = '+' :: digits) ∧ isNumeral digits = true ∧
    Nat.ofDigitChars 10 digits 0 = word.toNat

theorem word16?_eq_some_iff {text : List Char} {word : UInt16} : word16? text = some word ↔ Writes text word := by
  constructor
  · intro reads
    unfold word16? at reads
    split at reads
    · rename_i n value
      split at reads
      · rename_i small
        cases reads
        rcases unsigned?_eq_some_iff.1 value with ⟨digits, written, number⟩
        rcases natural?_eq_some_iff.1 number with ⟨numeral, rfl⟩
        exact ⟨digits, written, numeral, (UInt16.toNat_ofNat_of_lt' small).symm⟩
      · cases reads
    · cases reads
  · rintro ⟨digits, written, numeral, value⟩
    have reads := unsigned?_eq_some_iff.2 ⟨digits, written, natural?_eq_some_iff.2 ⟨numeral, value⟩⟩
    unfold word16?
    simp only [reads, if_pos word.toNat_lt, UInt16.ofNat_toNat]

theorem not_mem_of_word16? {text : List Char} {word : UInt16} {mark : Char} (reads : word16? text = some word)
    (noPlus : mark ≠ '+') (noDigit : mark.isDigit = false) : mark ∉ text := by
  unfold word16? at reads
  split at reads
  · rename_i n value
    exact not_mem_of_unsigned? value noPlus noDigit
  · cases reads

end Number
end Fleet
