namespace Fleet
namespace Number

/-!
# Numerals in text

Whole numbers as people and tools write them: ASCII digits, in one of the usual bases, with an optional
sign where the context allows one.  Nothing is read that is not wholly a numeral, and the value is the
one that the digits denote; whether it fits a field is for the field to say.
-/

/-! ## Powers

The powers that bounds of machine words and floating-point numbers are made of. -/

def twoTo (exponent : Nat) : Nat :=
  Nat.pow 2 exponent

def tenTo (exponent : Nat) : Nat :=
  Nat.pow 10 exponent

/-! ## Digits -/

/-- The value of an ASCII digit or letter in a base of at most 16. -/
def digitValue (base : Nat) (c : Char) : Option Nat :=
  let value :=
    if '0' ≤ c ∧ c ≤ '9' then c.toNat - '0'.toNat
    else if 'a' ≤ c ∧ c ≤ 'f' then c.toNat - 'a'.toNat + 10
    else if 'A' ≤ c ∧ c ≤ 'F' then c.toNat - 'A'.toNat + 10
    else 16
  if value < base then some value else none

/-- The value of a text that consists of digits of a base only, continuing from digits already read. -/
def digitsFrom (base : Nat) : (value : Nat) → List Char → Option Nat
  | value, [] => some value
  | value, c :: rest =>
      match digitValue base c with
      | some digit => digitsFrom base (value * base + digit) rest
      | none => none

def natural? (base : Nat) (text : List Char) : Option Nat :=
  if text.isEmpty then none else digitsFrom base 0 text

def unsigned? (base : Nat) : List Char → Option Nat
  | '+' :: digits => natural? base digits
  | digits => natural? base digits

def integer? (base : Nat) : List Char → Option Int
  | '-' :: digits => (natural? base digits).map fun n => -Int.ofNat n
  | '+' :: digits => (natural? base digits).map Int.ofNat
  | digits => (natural? base digits).map Int.ofNat

/-- A number that fits an unsigned word of 16 bits; a plus sign may stand in front. -/
def word16? (text : List Char) : Option UInt16 :=
  match unsigned? 10 text with
  | some n => if n < 65536 then some (UInt16.ofNat n) else none
  | none => none

/-- Whether a text is made of the digits `0` to `9` and has at least one. -/
def isNumeral (text : List Char) : Bool :=
  !text.isEmpty && text.all Char.isDigit

/-- The least and the greatest value of a signed word of 64 bits. -/
def fitsSigned64 (n : Int) : Bool :=
  -Int.ofNat (twoTo 63) ≤ n && n < Int.ofNat (twoTo 63)

def fitsUnsigned64 (n : Int) : Bool :=
  0 ≤ n && n < Int.ofNat (twoTo 64)

/-- The values of signed and unsigned words of 64 bits. -/
def fits64 (n : Int) : Bool :=
  fitsSigned64 n || fitsUnsigned64 n

/-- The values of signed and unsigned words of 128 bits. -/
def fits128 (n : Int) : Bool :=
  -Int.ofNat (twoTo 127) ≤ n && n < Int.ofNat (twoTo 128)

def clampSigned64 (n : Int) : Int :=
  max (-Int.ofNat (twoTo 63)) (min n (Int.ofNat (twoTo 63) - 1))

end Number
end Fleet
