import Fleet.Number.Binary64

namespace Fleet
namespace Binary64

open Number

/-!
# The shortest decimal text of a number

A number is written with the fewest decimal digits that still read back as the same number, and among
the decimals of that length with the one closest to it.  Every real that rounds to a number `x` lies in an
interval around `x`; its ends belong to it exactly when the mantissa is even.  The grids of multiples of
a power of ten are tried from coarse to fine, and the first one that meets the interval gives the digits.
-/

/-- A magnitude `digits * 10 ^ exponent`. -/
structure Decimal where
  digits : Nat
  exponent : Int
  deriving DecidableEq

/-- Whether quarter steps `point` from zero, scaled like `4 * mantissa`, round to the number. -/
private def roundsTo (x : Binary64) (left middle right : Nat) : Bool :=
  let fits (low high : Nat) : Bool := if x.mantissa % 2 = 0 then low ≤ high else low < high
  fits left middle && fits middle right

/-- Try the grid of multiples of `10 ^ exponent`, then the finer ones, at most `attempts` of them. -/
private def onGrid (x : Binary64) : (attempts : Nat) → (exponent : Int) → Decimal
  | 0, exponent => ⟨x.mantissa, exponent⟩
  | attempts + 1, exponent =>
      let quarters := 4 * x.mantissa
      let below := if x.mantissa = twoTo 52 ∧ 1 < x.storedExponent then quarters - 1 else quarters - 2
      let above := quarters + 2
      let shift := x.scale - 2
      let twos := if 0 ≤ shift then twoTo shift.toNat else 1
      let halves := if 0 ≤ shift then 1 else twoTo (-shift).toNat
      let tens := if 0 ≤ exponent then tenTo exponent.toNat else 1
      let tenths := if 0 ≤ exponent then 1 else tenTo (-exponent).toNat
      let unit := halves * tens
      let scaled (point : Nat) : Nat := point * twos * tenths
      let lower := scaled quarters / unit
      let reads (candidate : Nat) : Bool :=
        roundsTo x (scaled below) (candidate * unit) (scaled above)
      let toLower := scaled quarters - lower * unit
      let toUpper := (lower + 1) * unit - scaled quarters
      let preferUpper : Bool := toUpper < toLower || (toUpper == toLower && lower % 2 == 1)
      match reads lower, reads (lower + 1) with
      | true, true => ⟨if preferUpper then lower + 1 else lower, exponent⟩
      | true, false => ⟨lower, exponent⟩
      | false, true => ⟨lower + 1, exponent⟩
      | false, false => onGrid x attempts (exponent - 1)

/-- The shortest decimal that reads back as the magnitude of a number.

The coarsest grid tried is at least as coarse as the magnitude itself, and 17 digits always suffice. -/
def shortest (x : Binary64) : Decimal :=
  if x.isZero then ⟨0, 0⟩
  else
    let size := Int.ofNat x.mantissa.log2 + x.scale
    onGrid x 22 (size * 30103 / 100000 + 1)

def digitsOf (n : Nat) : List Char :=
  Nat.toDigits 10 n

/-- The digits of a decimal written out in full, with as many zeros as that takes. -/
def Decimal.positional (d : Decimal) : List Char :=
  let digits := digitsOf d.digits
  if 0 ≤ d.exponent then digits ++ List.replicate d.exponent.toNat '0'
  else
    let places := (-d.exponent).toNat
    let padded := List.replicate (places + 1 - digits.length) '0' ++ digits
    padded.take (padded.length - places) ++ '.' :: padded.drop (padded.length - places)

/-- The exponent that a decimal has in scientific notation. -/
def Decimal.order (d : Decimal) : Int :=
  Int.ofNat (digitsOf d.digits).length - 1 + d.exponent

/-- A decimal in scientific notation; the exponent has a sign and at least two digits. -/
def Decimal.scientific (d : Decimal) : List Char :=
  let mantissa :=
    match digitsOf d.digits with
    | [] => []
    | [digit] => [digit]
    | digit :: rest => digit :: '.' :: rest
  let size := digitsOf d.order.natAbs
  mantissa ++ 'e' :: (if d.order < 0 then '-' else '+') :: List.replicate (2 - size.length) '0' ++ size

/-- The sign of a number in front of a text for its magnitude. -/
private def signed (x : Binary64) (magnitude : List Char) : String :=
  String.ofList (if x.isNegative then '-' :: magnitude else magnitude)

/-- The number in full: no exponent ever, no fraction when it is an integer. -/
def plainText (x : Binary64) : String :=
  signed x x.shortest.positional

/-- The number as a document carries it: recognisable as floating-point, in full while its order is
between -5 and 15, in scientific notation otherwise. -/
def documentText (x : Binary64) : String :=
  let decimal := x.shortest
  if x.isZero then signed x ['0', '.', '0']
  else if -5 ≤ decimal.order ∧ decimal.order ≤ 15 then
    let fraction := if 0 ≤ decimal.exponent then ['.', '0'] else []
    signed x (decimal.positional ++ fraction)
  else signed x decimal.scientific

end Binary64
end Fleet
