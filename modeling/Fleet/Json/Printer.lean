import Fleet.Json.Basic
import Fleet.Number.Shortest

namespace Fleet
namespace Json

/-!
# Compact text of a document

No blanks between the parts, fields in the order in which they are listed, and every character as it
stands except for the quote, the backslash and the control characters.  A floating-point number always
shows that it is one.
-/

private def hexDigit (n : Nat) : Char :=
  if n < 10 then Char.ofNat ('0'.toNat + n) else Char.ofNat ('a'.toNat + (n - 10))

def escaped (c : Char) : List Char :=
  match c with
  | '"' => ['\\', '"']
  | '\\' => ['\\', '\\']
  | '\n' => ['\\', 'n']
  | '\r' => ['\\', 'r']
  | '\t' => ['\\', 't']
  | c =>
      if c.toNat = 8 then ['\\', 'b']
      else if c.toNat = 12 then ['\\', 'f']
      else if c.toNat < 32 then
        ['\\', 'u', '0', '0', hexDigit (c.toNat / 16), hexDigit (c.toNat % 16)]
      else [c]

def quotedChars (text : String) : List Char :=
  '"' :: text.toList.flatMap escaped ++ ['"']

def Number.text : Number → String
  | .whole n => toString n
  | .real x => x.documentText

mutual

def compactChars : Json → List Char
  | null => "null".toList
  | bool true => "true".toList
  | bool false => "false".toList
  | number n => n.text.toList
  | string text => quotedChars text
  | array items => '[' :: (compactItems items ++ [']'])
  | object fields => '\x7b' :: (compactFields fields ++ ['\x7d'])

/-- The items of an array, separated by commas. -/
def compactItems : List Json → List Char
  | [] => []
  | [item] => item.compactChars
  | item :: rest => item.compactChars ++ ',' :: compactItems rest

/-- The fields of an object, separated by commas. -/
def compactFields : List (String × Json) → List Char
  | [] => []
  | [(name, value)] => quotedChars name ++ ':' :: value.compactChars
  | (name, value) :: rest =>
      quotedChars name ++ ':' :: (value.compactChars ++ ',' :: compactFields rest)

end

def compact (value : Json) : String :=
  String.ofList value.compactChars

end Json
end Fleet
