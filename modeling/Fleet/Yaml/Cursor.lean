namespace Fleet
namespace Yaml

/-!
# A place in the text

The text still to be read, and where it starts.  A carriage return followed by a line feed is one line
break; so are each of them alone, the next-line character and the two Unicode separators.
-/

/-- A place in a text, with everything that follows it. -/
structure Cursor where
  text : List Char
  index : Nat
  line : Nat
  column : Nat

def isBlank (c : Char) : Bool :=
  c == ' ' || c == '\t'

def isBreak (c : Char) : Bool :=
  c == '\n' || c == '\r' || c.toNat == 0x85 || c.toNat == 0x2028 || c.toNat == 0x2029

def isWordChar (c : Char) : Bool :=
  c.isAlphanum || c == '_' || c == '-'

/-- Whether a possible character is missing or ends a line. -/
def breakOrEnd (next : Option Char) : Bool :=
  next.all isBreak

/-- Whether a possible character is missing, blank, or ends a line. -/
def blankOrEnd (next : Option Char) : Bool :=
  next.all fun c => isBlank c || isBreak c

/-- The text of a line break; only the two separators are kept as they are. -/
def breakText (c : Char) : Char :=
  if c.toNat == 0x2028 || c.toNat == 0x2029 then c else '\n'

namespace Cursor

def start (text : List Char) : Cursor :=
  ⟨text, 0, 0, 0⟩

def next (c : Cursor) : Option Char :=
  c.text.head?

def ahead (c : Cursor) (n : Nat) : Option Char :=
  c.text[n]?

def sees (c : Cursor) (char : Char) : Bool :=
  c.next == some char

def seesAny (c : Cursor) (property : Char → Bool) : Bool :=
  c.next.any property

/-- The place after a number of characters of the same line. -/
def skip (c : Cursor) (n : Nat := 1) : Cursor :=
  { c with text := c.text.drop n, index := c.index + n, column := c.column + n }

/-- The place after all next characters with a property; they have to be on the same line. -/
def skipWhile (c : Cursor) (property : Char → Bool) : Cursor :=
  c.skip (c.text.takeWhile property).length

def skipBreak (c : Cursor) : Cursor :=
  match c.text with
  | '\r' :: '\n' :: rest => ⟨rest, c.index + 2, c.line + 1, 0⟩
  | _ :: rest => ⟨rest, c.index + 1, c.line + 1, 0⟩
  | [] => c

def breakHere (c : Cursor) : List Char :=
  match c.text with
  | '\r' :: '\n' :: _ => ['\n']
  | char :: _ => [breakText char]
  | [] => []

/-- Whether a line starts here with one of the two marks that separate documents. -/
def atDocumentMark (c : Cursor) : Bool :=
  c.column == 0 &&
    match c.text with
    | '-' :: '-' :: '-' :: rest => blankOrEnd rest.head?
    | '.' :: '.' :: '.' :: rest => blankOrEnd rest.head?
    | _ => false

end Cursor
end Yaml
end Fleet
