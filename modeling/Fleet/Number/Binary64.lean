import Fleet.Number.Numeral

namespace Fleet

open Number

/-!
# Finite numbers of the 64-bit binary format

The reports of an agent carry usage figures and time stamps as 64-bit floating-point numbers.  They
are kept as their bits, with the guarantee that the bits stand for a finite number, so that every
statement about them is one about natural numbers.  `Binary64.nearest` is the only place that rounds:
it takes an exact ratio to the closest number of the format, a tie going to the even neighbour.
-/

/-- A finite number of the 64-bit binary interchange format. -/
structure Binary64 where
  bits : UInt64
  finite : bits.toNat / twoTo 52 % twoTo 11 < 2047
  deriving DecidableEq

namespace Binary64

/-- The sign bit, which zero carries too. -/
def isNegative (x : Binary64) : Bool :=
  x.bits.toNat / twoTo 63 == 1

def storedExponent (x : Binary64) : Nat :=
  x.bits.toNat / twoTo 52 % twoTo 11

def mantissa (x : Binary64) : Nat :=
  let fraction := x.bits.toNat % twoTo 52
  if x.storedExponent = 0 then fraction else fraction + twoTo 52

/-- The exponent of two in the value `mantissa * 2 ^ scale`. -/
def scale (x : Binary64) : Int :=
  Int.ofNat (max x.storedExponent 1) - 1075

/-- The magnitude as an exact ratio, numerator first. -/
def ratio (x : Binary64) : Nat × Nat :=
  if 0 ≤ x.scale then (x.mantissa * twoTo x.scale.toNat, 1)
  else (x.mantissa, twoTo (-x.scale).toNat)

/-- The number whose bits below the sign are `magnitude`, unless they would not be finite. -/
def ofMagnitude (negative : Bool) (magnitude : Nat) : Option Binary64 :=
  let bits := (UInt64.ofNat (magnitude + if negative then twoTo 63 else 0))
  if finite : magnitude < 2047 * twoTo 52 ∧ bits.toNat / twoTo 52 % twoTo 11 < 2047 then
    some ⟨bits, finite.2⟩
  else none

/-- Zero, without a sign. -/
def zero : Binary64 :=
  ⟨0, by decide⟩

/-- A quotient rounded to the nearest integer, a half going to the even one. -/
def roundedQuotient (dividend divisor : Nat) : Nat :=
  let quotient := dividend / divisor
  let rest := 2 * (dividend % divisor)
  if divisor < rest ∨ (divisor = rest ∧ quotient % 2 = 1) then quotient + 1 else quotient

/-- The number closest to `dividend / divisor`; none when that lies beyond the format's range.

The exponent is chosen so that the quotient has 53 bits, or is the least one the format has.  A
quotient that rounds up to 54 bits needs no care: stored after the exponent it carries into it. -/
def nearest (negative : Bool) (dividend divisor : Nat) : Option Binary64 :=
  if dividend = 0 then ofMagnitude negative 0
  else
    let guess : Int := Int.ofNat dividend.log2 - Int.ofNat divisor.log2 - 52
    let quotientAt (exponent : Int) (rounded : Nat → Nat → Nat) : Nat :=
      if 0 ≤ exponent then rounded dividend (divisor * twoTo exponent.toNat)
      else rounded (dividend * twoTo (-exponent).toNat) divisor
    let exact := if quotientAt guess (· / ·) < twoTo 52 then guess - 1 else guess
    let exponent := max exact (-1074)
    ofMagnitude negative ((exponent + 1074).toNat * twoTo 52 + quotientAt exponent roundedQuotient)

/-- The number closest to a natural number of at most 64 bits, and hence within range. -/
def ofNat (n : Nat) : Binary64 :=
  (nearest false n 1).getD zero

/-- The number closest to an integer of at most 64 bits, and hence within range. -/
def ofInt (n : Int) : Binary64 :=
  (nearest (decide (n < 0)) n.natAbs 1).getD zero

/-- The product, rounded; none when it is out of range. -/
def times (x y : Binary64) : Option Binary64 :=
  nearest (x.isNegative != y.isNegative) (x.ratio.1 * y.ratio.1) (x.ratio.2 * y.ratio.2)

/-- The quotient, rounded; none when it is out of range or the divisor is zero. -/
def dividedBy (x y : Binary64) : Option Binary64 :=
  if y.mantissa = 0 then none
  else nearest (x.isNegative != y.isNegative) (x.ratio.1 * y.ratio.2) (x.ratio.2 * y.ratio.1)

def isZero (x : Binary64) : Bool :=
  x.mantissa == 0

def isWhole (x : Binary64) : Bool :=
  x.ratio.1 % x.ratio.2 == 0

/-- The integer part, towards zero. -/
def truncated (x : Binary64) : Int :=
  let magnitude := Int.ofNat (x.ratio.1 / x.ratio.2)
  if x.isNegative then -magnitude else magnitude

/-- The number closest to `digits * 10 ^ exponent`; none when that is out of range.

Powers of ten far outside the format's range are not computed: beyond them the answer is known. -/
def ofDecimal (negative : Bool) (digits : Nat) (exponent : Int) : Option Binary64 :=
  if digits = 0 then ofMagnitude negative 0
  else
    let size := Int.ofNat (digits.log2 / 3) + 1 + exponent
    if 400 < exponent then none
    else if size < -400 then ofMagnitude negative 0
    else if 0 ≤ exponent then nearest negative (digits * tenTo exponent.toNat) 1
    else nearest negative digits (tenTo (-exponent).toNat)

end Binary64
end Fleet
