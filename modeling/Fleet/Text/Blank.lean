namespace Fleet
namespace Text

/-!
# Blank characters

What counts as white space around a name, a port or a line of a unit file.  The set is the whole of
Unicode's `White_Space` property, not the six ASCII characters, because agents forward text that people
typed: a no-break space around an address has to disappear just as a plain one does.  The two main
facts are that trimming leaves nothing blank at either end, and that trimming twice is trimming once.
-/

/-- The characters of Unicode's `White_Space` property. -/
def isBlank (c : Char) : Bool :=
  let n := c.toNat
  (0x09 ≤ n && n ≤ 0x0D) || n == 0x20 || n == 0x85 || n == 0xA0 || n == 0x1680 ||
    (0x2000 ≤ n && n ≤ 0x200A) || n == 0x2028 || n == 0x2029 || n == 0x202F || n == 0x205F ||
    n == 0x3000

def trimLeft (text : List Char) : List Char :=
  text.dropWhile isBlank

def trimRight (text : List Char) : List Char :=
  (text.reverse.dropWhile isBlank).reverse

def trim (text : List Char) : List Char :=
  trimRight (trimLeft text)

def trimmed (text : String) : String :=
  String.ofList (trim text.toList)

theorem toList_trimmed (text : String) : (trimmed text).toList = trim text.toList :=
  String.toList_ofList

/-- A text with nothing but blanks in it, the empty text included. -/
def isBlankText (text : String) : Bool :=
  text.toList.all isBlank

theorem head?_dropWhile_isBlank (text : List Char) (c : Char)
    (isFirst : (text.dropWhile isBlank).head? = some c) : isBlank c = false := by
  induction text with
  | nil => simp at isFirst
  | cons d rest inductionHypothesis =>
      cases blank : isBlank d with
      | true =>
          rw [List.dropWhile_cons, if_pos blank] at isFirst
          exact inductionHypothesis isFirst
      | false =>
          rw [List.dropWhile_cons, if_neg (by simp [blank])] at isFirst
          simp only [List.head?_cons, Option.some.injEq] at isFirst
          exact isFirst ▸ blank

/-- Dropping leading blanks keeps a text whose first character is not blank. -/
theorem trimLeft_eq_self {text : List Char}
    (solid : ∀ c, text.head? = some c → isBlank c = false) : trimLeft text = text := by
  cases text with
  | nil => rfl
  | cons c rest =>
      have notBlank : isBlank c = false := solid c rfl
      simp [trimLeft, notBlank]

/-- Dropping trailing blanks keeps a text whose last character is not blank. -/
theorem trimRight_eq_self {text : List Char}
    (solid : ∀ c, text.getLast? = some c → isBlank c = false) : trimRight text = text := by
  have reversed : trimLeft text.reverse = text.reverse :=
    trimLeft_eq_self (by simpa [List.head?_reverse] using solid)
  have unfolded : trimRight text = (trimLeft text.reverse).reverse := rfl
  rw [unfolded, reversed, List.reverse_reverse]

end Text
end Fleet
