import Fleet.Json.Basic
import Fleet.Keyed
import Fleet.Number.Numeral

namespace Fleet
namespace Json

/-!
# Reading documents

A reader for the text of a document, strict in what it accepts: no comments, no trailing commas, no bare
control characters, no lone surrogates, and no more than 127 arrays and objects inside one another.

A text that breaks off or goes wrong still has a beginning that makes sense.  The reader keeps it
(`Reading.broken`), because a value that is already known to be of the wrong type is reported as such
whatever comes after it.

Floating-point numbers are read from at most the first digits that fit 64 bits, scaled once by a power of
ten that is itself rounded.  The result can differ from the closest number in its last place when there
are more than 15 digits.
-/

/-- How far a text could be read. -/
inductive Reading (α : Type) where
  | whole (value : α) (rest : List Char)
  | broken (beginning : Option α)

def depthLimit : Nat := 127

/-- The four blanks that may stand between the parts of a document. -/
def isSpace (c : Char) : Bool :=
  c == ' ' || c == '\n' || c == '\t' || c == '\r'

def skipSpace (text : List Char) : List Char :=
  text.dropWhile isSpace

private def codeUnit (a b c d : Char) : Option Nat :=
  Number.natural? 16 [a, b, c, d]

/-- The rest of a quoted text after its opening quote.  A code unit of a pair has to be written right
before its partner. -/
def readText : (done : List Char) → List Char → Option (String × List Char)
  | _, [] => none
  | done, '"' :: rest => some (String.ofList done.reverse, rest)
  | done, '\\' :: 'u' :: a :: b :: c :: d :: rest =>
      match codeUnit a b c d with
      | none => none
      | some unit =>
          if 0xD800 ≤ unit ∧ unit < 0xDC00 then
            match rest with
            | '\\' :: 'u' :: e :: f :: g :: h :: rest =>
                match codeUnit e f g h with
                | none => none
                | some partner =>
                    if 0xDC00 ≤ partner ∧ partner < 0xE000 then
                      let point := 0x10000 + (unit - 0xD800) * 0x400 + (partner - 0xDC00)
                      readText (Char.ofNat point :: done) rest
                    else none
            | _ => none
          else if 0xDC00 ≤ unit ∧ unit < 0xE000 then none
          else readText (Char.ofNat unit :: done) rest
  | done, '\\' :: c :: rest =>
      match c with
      | '"' => readText ('"' :: done) rest
      | '\\' => readText ('\\' :: done) rest
      | '/' => readText ('/' :: done) rest
      | 'b' => readText (Char.ofNat 8 :: done) rest
      | 'f' => readText (Char.ofNat 12 :: done) rest
      | 'n' => readText ('\n' :: done) rest
      | 'r' => readText ('\r' :: done) rest
      | 't' => readText ('\t' :: done) rest
      | _ => none
  | done, c :: rest => if c.toNat < 32 ∨ c = '\\' then none else readText (c :: done) rest

/-! ## Numbers -/

/-- The digits of a number that were taken into account, and the power of ten that scales them. -/
private structure Scaled where
  significand : Nat
  exponent : Int

/-- Take one more digit if the significand still fits 64 bits. -/
private def Scaled.push? (s : Scaled) (c : Char) : Option Nat :=
  let value := s.significand * 10 + (c.toNat - '0'.toNat)
  if value < Number.twoTo 64 then some value else none

/-- Take the digits in front of the point.  From the first that does not fit, they only scale. -/
private def takeWhole : Scaled → List Char → Scaled
  | s, [] => s
  | s, c :: rest =>
      match s.push? c with
      | some value => takeWhole { s with significand := value } rest
      | none => { s with exponent := s.exponent + Int.ofNat (rest.length + 1) }

/-- Take the digits after the point.  From the first that does not fit, they are disregarded. -/
private def takeFraction : Scaled → List Char → Scaled
  | s, [] => s
  | s, c :: rest =>
      match s.push? c with
      | some value => takeFraction ⟨value, s.exponent - 1⟩ rest
      | none => s

/-- Divide by `10 ^ 308` a number of times; after three times only zero is left. -/
private def shrink : Nat → Binary64 → Option Binary64
  | 0, x => some x
  | n + 1, x => do
      let step ← Binary64.ofDecimal false 1 308
      shrink n (← x.dividedBy step)

/-- The number that digits and a power of ten stand for; none when it is out of range. -/
private def Scaled.toReal (s : Scaled) : Option Binary64 := do
  let whole ← Binary64.nearest false s.significand 1
  if s.significand = 0 then
    return whole
  if 0 ≤ s.exponent then
    if 308 < s.exponent then none
    else whole.times (← Binary64.ofDecimal false 1 s.exponent)
  else
    let places := (-s.exponent).toNat
    let steps := (places - 1) / 308
    let shrunk ← shrink (min steps 3) whole
    shrunk.dividedBy (← Binary64.ofDecimal false 1 (Int.ofNat (places - 308 * steps)))

private def withSign (negative : Bool) (x : Binary64) : Option Binary64 :=
  Binary64.ofMagnitude negative x.bits.toNat

/-- The power of ten after `e`, with what follows it. -/
private def readExponent (text : List Char) : Option (Int × List Char) :=
  let (negative, text) :=
    match text with
    | '+' :: rest => (false, rest)
    | '-' :: rest => (true, rest)
    | _ => (false, text)
  let digits := text.takeWhile Char.isDigit
  match Number.natural? 10 digits with
  | none => none
  | some n => some (if negative then -Int.ofNat n else Int.ofNat n, text.dropWhile Char.isDigit)

/-- A number, with what follows it. -/
def readNumber (text : List Char) : Option (Number × List Char) := do
  let negative := text.head? == some '-'
  let text := if negative then text.drop 1 else text
  let digits := text.takeWhile Char.isDigit
  let text := text.dropWhile Char.isDigit
  if digits.isEmpty || (digits.head? == some '0' && 1 < digits.length) then
    none
  let whole := takeWhole ⟨0, 0⟩ digits
  let real (s : Scaled) (rest : List Char) : Option (Number × List Char) := do
    return (.real (← withSign negative (← s.toReal)), rest)
  let scaled (s : Scaled) (rest : List Char) : Option (Number × List Char) := do
    let (power, rest) ← readExponent rest
    real { s with exponent := s.exponent + power } rest
  match text with
  | '.' :: rest =>
      let places := rest.takeWhile Char.isDigit
      if places.isEmpty then none
      else
        let s := takeFraction whole places
        match rest.dropWhile Char.isDigit with
        | 'e' :: rest => scaled s rest
        | 'E' :: rest => scaled s rest
        | rest => real s rest
  | 'e' :: rest => scaled whole rest
  | 'E' :: rest => scaled whole rest
  | rest =>
      let fits : Bool :=
        whole.exponent == 0 &&
          (!negative || (whole.significand != 0 && whole.significand ≤ Number.twoTo 63))
      if fits then
        let value := Int.ofNat whole.significand
        some (.whole (if negative then -value else value), rest)
      else real whole rest

/-! ## Values -/

private def readWord (word : String) (value : Json) (text : List Char) : Reading Json :=
  match word.toList.isPrefixOf? text with
  | some rest => .whole value rest
  | none => .broken none

mutual

/-- A value, with what follows it.  `arrange` puts the fields of an object in order once they are all
known; `depth` says how many more arrays and objects may be opened. -/
def readValue (arrange : List (String × Json) → List (String × Json)) :
    (fuel depth : Nat) → List Char → Reading Json
  | 0, _, _ => .broken none
  | fuel + 1, depth, text =>
      match skipSpace text with
      | [] => .broken none
      | '"' :: rest =>
          match readText [] rest with
          | some (value, rest) => .whole (string value) rest
          | none => .broken none
      | '[' :: rest =>
          match depth with
          | 0 => .broken none
          | depth + 1 =>
              match skipSpace rest with
              | ']' :: rest => .whole (array []) rest
              | rest => readItems arrange fuel depth [] rest
      | '{' :: rest =>
          match depth with
          | 0 => .broken none
          | depth + 1 =>
              match skipSpace rest with
              | '}' :: rest => .whole (object []) rest
              | rest => readFields arrange fuel depth [] rest
      | 'n' :: rest => readWord "null" null ('n' :: rest)
      | 't' :: rest => readWord "true" (bool true) ('t' :: rest)
      | 'f' :: rest => readWord "false" (bool false) ('f' :: rest)
      | text =>
          match readNumber text with
          | some (value, rest) => .whole (number value) rest
          | none => .broken none

/-- The items of an array from the next one on; those already read are listed last first. -/
def readItems (arrange : List (String × Json) → List (String × Json)) :
    (fuel depth : Nat) → (done : List Json) → List Char → Reading Json
  | 0, _, done, _ => .broken (some (array done.reverse))
  | fuel + 1, depth, done, text =>
      match readValue arrange fuel depth text with
      | .broken beginning => .broken (some (array (done.reverse ++ beginning.toList)))
      | .whole value rest =>
          match skipSpace rest with
          | ',' :: rest => readItems arrange fuel depth (value :: done) rest
          | ']' :: rest => .whole (array (value :: done).reverse) rest
          | _ => .broken (some (array (value :: done).reverse))

/-- The fields of an object from the next one on; those already read are listed last first. -/
def readFields (arrange : List (String × Json) → List (String × Json)) :
    (fuel depth : Nat) → (done : List (String × Json)) → List Char → Reading Json
  | 0, _, done, _ => .broken (some (object (arrange done.reverse)))
  | fuel + 1, depth, done, text =>
      let soFar (more : List (String × Json)) : Reading Json :=
        .broken (some (object (arrange (done.reverse ++ more))))
      match skipSpace text with
      | '"' :: rest =>
          match readText [] rest with
          | none => soFar []
          | some (name, rest) =>
              match skipSpace rest with
              | ':' :: rest =>
                  match readValue arrange fuel depth rest with
                  | .broken beginning => soFar (beginning.toList.map fun value => (name, value))
                  | .whole value rest =>
                      match skipSpace rest with
                      | ',' :: rest => readFields arrange fuel depth ((name, value) :: done) rest
                      | '}' :: rest =>
                          .whole (object (arrange ((name, value) :: done).reverse)) rest
                      | _ => soFar [(name, value)]
              | _ => soFar []
      | _ => soFar []

end

/-- The document that a text starts with, and what follows it. -/
private def readStart (arrange : List (String × Json) → List (String × Json)) (text : List Char) :
    Reading Json :=
  readValue arrange (2 * text.length + 2) depthLimit text

/-- Read a text that holds one document and nothing else. -/
private def readAll (arrange : List (String × Json) → List (String × Json)) (text : List Char) :
    Reading Json :=
  match readStart arrange text with
  | .broken beginning => .broken beginning
  | .whole value rest =>
      match skipSpace rest with
      | [] => .whole value []
      | _ => .broken (some value)

/-- The document that a text holds: the keys of every object in order, each once, with the value that
was written last. -/
def read? (text : String) : Option Json :=
  match readAll (fun fields => (Keyed.ofList fields).entries) text.toList with
  | .whole value _ => some value
  | .broken _ => none

/-- The document that a text holds, with the fields of objects as they are written, repeated ones
included. -/
def readAsWritten (text : String) : Reading Json :=
  readAll id text.toList

/-- A text that is one value with nothing behind it holds this value. -/
theorem readAsWritten_eq_whole {text : String} {value : Json}
    (read : readValue id (2 * text.toList.length + 2) depthLimit text.toList = .whole value []) :
    readAsWritten text = .whole value [] := by
  simp only [readAsWritten, readAll, readStart, read]
  rfl

/-- The document that a text starts with, with the fields of objects as they are written, and what
follows it. -/
def readFirst (text : List Char) : Reading Json :=
  readStart id text

end Json
end Fleet
