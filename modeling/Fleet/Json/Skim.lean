import Fleet.Json.Reader

namespace Fleet
namespace Json

/-!
# Passing over documents

A field that nobody asks for is passed over without being read.  Its form has to be that of a document,
but what it means is not looked at: numbers may be out of any range, code units need no partner, and
arrays and objects may be nested as deeply as they like.  For that reason the brackets that are open are
kept in a list of their own.
-/

/-- What is being passed over around the current place. -/
inductive Enclosing where
  | array
  | object

def skipText : List Char → Option (List Char)
  | '"' :: rest => some rest
  | '\\' :: 'u' :: a :: b :: c :: d :: rest =>
      if (Number.natural? 16 [a, b, c, d]).isSome then skipText rest else none
  | '\\' :: c :: rest => if "\"\\/bfnrt".toList.contains c then skipText rest else none
  | c :: rest => if c.toNat < 32 ∨ c = '\\' then none else skipText rest
  | [] => none

private def skipDigits (text : List Char) : Option (List Char) :=
  match text.takeWhile Char.isDigit with
  | [] => none
  | _ => some (text.dropWhile Char.isDigit)

/-- The text after an exponent, if one starts here. -/
private def skipExponent (text : List Char) : Option (List Char) :=
  let digits (rest : List Char) : Option (List Char) :=
    match rest with
    | '+' :: rest => skipDigits rest
    | '-' :: rest => skipDigits rest
    | _ => skipDigits rest
  match text with
  | 'e' :: rest => digits rest
  | 'E' :: rest => digits rest
  | _ => some text

def skipNumber (text : List Char) : Option (List Char) :=
  let unsigned := if text.head? == some '-' then text.drop 1 else text
  let digits := unsigned.takeWhile Char.isDigit
  if digits.isEmpty || (digits.head? == some '0' && 1 < digits.length) then none
  else
    match unsigned.dropWhile Char.isDigit with
    | '.' :: rest => (skipDigits rest).bind skipExponent
    | rest => skipExponent rest

private def skipScalar (text : List Char) : Option (List Char) :=
  let word (word : String) : Option (List Char) := word.toList.isPrefixOf? text
  match text with
  | '"' :: rest => skipText rest
  | 'n' :: _ => word "null"
  | 't' :: _ => word "true"
  | 'f' :: _ => word "false"
  | _ => skipNumber text

mutual

/-- The text after a value and after everything that is open around it, the innermost listed first. -/
def skipValue : (fuel : Nat) → (around : List Enclosing) → List Char → Option (List Char)
  | 0, _, _ => none
  | fuel + 1, around, text =>
      match skipSpace text with
      | '[' :: rest =>
          match skipSpace rest with
          | ']' :: rest => skipRest fuel around rest
          | rest => skipValue fuel (.array :: around) rest
      | '\x7b' :: rest =>
          match skipSpace rest with
          | '\x7d' :: rest => skipRest fuel around rest
          | rest => skipField fuel (.object :: around) rest
      | text => (skipScalar text).bind (skipRest fuel around)

def skipField : (fuel : Nat) → (around : List Enclosing) → List Char → Option (List Char)
  | 0, _, _ => none
  | fuel + 1, around, text =>
      match skipSpace text with
      | '"' :: rest =>
          match (skipText rest).map skipSpace with
          | some (':' :: rest) => skipValue fuel around rest
          | _ => none
      | _ => none

def skipRest : (fuel : Nat) → (around : List Enclosing) → List Char → Option (List Char)
  | 0, _, _ => none
  | _, [], text => some text
  | fuel + 1, enclosing :: around, text =>
      match enclosing, skipSpace text with
      | .array, ',' :: rest => skipValue fuel (.array :: around) rest
      | .array, ']' :: rest => skipRest fuel around rest
      | .object, ',' :: rest => skipField fuel (.object :: around) rest
      | .object, '\x7d' :: rest => skipRest fuel around rest
      | _, _ => none

end

def skip (text : List Char) : Option (List Char) :=
  skipValue (2 * text.length + 2) [] text

end Json
end Fleet
