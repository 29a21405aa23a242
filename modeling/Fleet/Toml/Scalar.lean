import Fleet.Number.Binary64
import Fleet.Number.Numeral
import Fleet.Text.Cut
import Fleet.Toml.Value

namespace Fleet
namespace Toml

/-!
# Words and numbers of configuration files

Values that are written without quotes or brackets.  Digits may be grouped by single underscores; a number
in base ten does not start with a superfluous zero.
-/

/-- The digits of a text in which single underscores may stand between digits. -/
def grouped? (text : List Char) : Option (List Char) :=
  let groups := Text.segments '_' text
  if groups.any List.isEmpty then none else some groups.flatten

/-- Digits of a base, possibly grouped. -/
def digits? (base : Nat) (text : List Char) : Option Nat :=
  (grouped? text).bind (Number.natural? base)

/-- The sign that a text starts with, if it has one, and the rest. -/
def signed (text : List Char) : Bool × List Char :=
  match text with
  | '-' :: rest => (true, rest)
  | '+' :: rest => (false, rest)
  | _ => (false, text)

/-- A number in base ten, without a sign. -/
def decimal? (text : List Char) : Option Nat :=
  match text with
  | '0' :: _ :: _ => none
  | _ => digits? 10 text

/-- An integer.  Beyond words of 128 bits there are none. -/
def integer? (text : List Char) : Option Toml := do
  let value ←
    match text with
    | '0' :: 'x' :: rest => (digits? 16 rest).map Int.ofNat
    | '0' :: 'o' :: rest => (digits? 8 rest).map Int.ofNat
    | '0' :: 'b' :: rest => (digits? 2 rest).map Int.ofNat
    | _ =>
        let (negative, rest) := signed text
        (decimal? rest).map fun n => if negative then -Int.ofNat n else Int.ofNat n
  if Number.fits128 value then some (.whole value) else none

def exponent? (text : List Char) : Option Int :=
  let (negative, rest) := signed text
  (digits? 10 rest).map fun n => if negative then -Int.ofNat n else Int.ofNat n

/-- A floating-point number, which has to be in range. -/
def float? (text : List Char) : Option Toml := do
  let (_, unsigned) := signed text
  if unsigned == "inf".toList || unsigned == "nan".toList then
    return .real
  let significand := unsigned.takeWhile fun c => c != 'e' && c != 'E'
  let power ←
    match unsigned.dropWhile fun c => c != 'e' && c != 'E' with
    | [] => some 0
    | _ :: exponent => exponent? exponent
  let (front, fraction) := (Text.cutFirst '.' significand).getD (significand, ['0'])
  let _ ← decimal? front
  let places ← grouped? fraction
  let digits ← grouped? front
  let value ← Number.natural? 10 (digits ++ places)
  if !places.all Char.isDigit then
    none
  let _ ← Binary64.ofDecimal false value (power - Int.ofNat places.length)
  return .real

/-! ## Points in time -/

/-- Two digits that stand for a number between two bounds. -/
def twoDigits (least greatest : Nat) (high low : Char) : Bool :=
  match Number.natural? 10 [high, low] with
  | some n => least ≤ n && n ≤ greatest
  | none => false

def daysIn (year month : Nat) : Nat :=
  if month = 2 then
    if year % 4 = 0 ∧ (year % 100 ≠ 0 ∨ year % 400 = 0) then 29 else 28
  else if month = 4 ∨ month = 6 ∨ month = 9 ∨ month = 11 then 30
  else 31

def isDate (text : List Char) : Bool :=
  match text with
  | [y₁, y₂, y₃, y₄, '-', m₁, m₂, '-', d₁, d₂] =>
      match Number.natural? 10 [y₁, y₂, y₃, y₄], Number.natural? 10 [m₁, m₂] with
      | some year, some month =>
          1 ≤ month && month ≤ 12 && twoDigits 1 (daysIn year month) d₁ d₂
      | _, _ => false
  | _ => false

/-- What follows the seconds of a time of day: a fraction, or nothing. -/
def isFraction (text : List Char) : Bool :=
  match text with
  | [] => true
  | '.' :: digits => Number.isNumeral digits
  | _ => false

/-- Whether the text is a time of day.  The seconds may be left out. -/
def isTime (text : List Char) : Bool :=
  match text with
  | h₁ :: h₂ :: ':' :: m₁ :: m₂ :: rest =>
      twoDigits 0 23 h₁ h₂ && twoDigits 0 59 m₁ m₂ &&
        match rest with
        | [] => true
        | ':' :: s₁ :: s₂ :: rest => twoDigits 0 60 s₁ s₂ && isFraction rest
        | _ => false
  | _ => false

/-- Whether the text is a time of day with the offset of a time zone. -/
def isTimeWithOffset (text : List Char) : Bool :=
  match text.reverse with
  | 'Z' :: time => isTime time.reverse
  | 'z' :: time => isTime time.reverse
  | m₂ :: m₁ :: ':' :: h₂ :: h₁ :: sign :: time =>
      (sign == '+' || sign == '-') && twoDigits 0 23 h₁ h₂ && twoDigits 0 59 m₁ m₂ &&
        isTime time.reverse
  | _ => false

/-- Whether the text is a date, a time of day, or both. -/
def isMoment (text : List Char) : Bool :=
  isDate text || isTime text ||
    match text.drop 10 with
    | mark :: time =>
        isDate (text.take 10) && (mark == 'T' || mark == 't' || mark == ' ') &&
          (isTime time || isTimeWithOffset time)
    | [] => false

/-- The value that a text without quotes or brackets stands for. -/
def scalar? (text : List Char) : Option Toml :=
  if text == "true".toList then some (.flag true)
  else if text == "false".toList then some (.flag false)
  else if isMoment text then some .moment
  else (integer? text).or (float? text)

end Toml
end Fleet
