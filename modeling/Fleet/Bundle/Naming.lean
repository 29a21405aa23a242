import Fleet.Text.Capital
import Fleet.Text.Cut

namespace Fleet
namespace Naming

/-!
# Names of bundles

A bundle of several services is named by the words that their names start with in common, shown with capital
letters, and known by an id made of lower-case letters, digits and single hyphens.
-/

def isSeparator (c : Char) : Bool :=
  c == '-' || c == '_' || c == '.'

def trimSeparators (text : List Char) : List Char :=
  ((text.dropWhile isSeparator).reverse.dropWhile isSeparator).reverse

/-! ## Words in common

Names are cut after a number of bytes.  A cut that would not be at the end of a character is a fault. -/

/-- The number of bytes that two texts start with in common. -/
def sharedSize : List Char → List Char → Nat
  | a :: left, b :: right => if a = b then a.utf8Size + sharedSize left right else 0
  | _, _ => 0

/-- The text that all names start with in common. -/
def sharedStart (first : List Char) (others : List (List Char)) : Except Text.Misplaced (List Char) :=
  let size := others.foldl (fun size name => min (sharedSize first name) size) (Text.byteSize first)
  (Text.cutAt size first).map Prod.fst

/-- Whether nothing follows, or a separator does. -/
def isWordEnd : List Char → Bool
  | [] => true
  | c :: _ => isSeparator c

/-- Whether all names are at the end of a word behind a text that they start with. -/
def endsWord (start : List Char) (names : List (List Char)) : Except Text.Misplaced Bool :=
  names.allM fun name => (Text.cutAt (Text.byteSize start) name).map fun parts => isWordEnd parts.2

/-- The number of bytes in front of the last separator. -/
def lastSeparator? : List Char → Option Nat
  | [] => none
  | c :: rest =>
      match lastSeparator? rest with
      | some size => some (c.utf8Size + size)
      | none => if isSeparator c then some 0 else none

/-- The text in front of its last separator; nothing if it has none. -/
def withoutLastWord (text : List Char) : Except Text.Misplaced (List Char) :=
  match lastSeparator? text with
  | some size => (Text.cutAt size text).map Prod.fst
  | none => .ok []

/-- A text that all names start with, cut back to where a word ends in all of them. -/
def wholeWords (shared : List Char) (names : List (List Char)) : Except Text.Misplaced (List Char) := do
  if ← endsWord shared names then return shared else withoutLastWord shared

/-- The words that all names start with in common, if there are any. -/
def commonWords : List (List Char) → Except Text.Misplaced (Option (List Char))
  | [] => .ok none
  | first :: others => do
      let shared ← sharedStart first others
      let words := trimSeparators (← wholeWords shared (first :: others))
      return if words.isEmpty then none else some words

/-! ## Shown names and ids -/

/-- A name for people to read: its words with capitals and blanks between them. -/
def display (name : String) : String :=
  " ".intercalate ((Text.pieces isSeparator name.toList).map fun word =>
    String.ofList (Text.capitalized word))

/-- The id that a name has if no other bundle has it. -/
def slug (name : String) : String :=
  let words := Text.pieces (fun c => !c.isAlphanum) name.toList
  if words.isEmpty then "bundle"
  else String.ofList (['-'].intercalate (words.map Text.lowered))

/-- An id with a number, which only the first bundle of a name goes without. -/
def numbered (base : String) (n : Nat) : String :=
  if n = 0 then base else base ++ "-" ++ toString (n + 1)

/-- The first free id for a name.  Among one more candidates than there are ids in use one is free. -/
def freeId (used : List String) (base : String) : String :=
  let candidates := (List.range (used.length + 1)).map (numbered base)
  (candidates.find? fun id => !used.contains id).getD base

end Naming
end Fleet
