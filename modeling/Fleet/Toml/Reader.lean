import Fleet.Toml.Scalar
import Fleet.Toml.Table
import Fleet.Toml.Text

namespace Fleet
namespace Toml

/-!
# Reading configuration files

A file is a sequence of lines, each of which opens a table, defines a value or says nothing.  A value may
go on over several lines; within brackets and braces line breaks and comments may stand between the parts.
A file with anything wrong in it is not read at all.
-/

/-- How deeply arrays and tables in braces may be nested. -/
def depthLimit : Nat := 80

/-- The text after gaps, line breaks and comments; `comment` says whether it starts inside a comment. -/
def skipVoid : (comment : Bool) → List Char → Option (List Char)
  | _, [] => some []
  | _, '\n' :: rest => skipVoid false rest
  | _, '\r' :: '\n' :: rest => skipVoid false rest
  | true, c :: rest => if isPlain c then skipVoid true rest else none
  | false, c :: rest =>
      if c == '#' then skipVoid true rest
      else if isGap c then skipVoid false rest
      else some (c :: rest)

/-- The text after the rest of a line in which nothing more is said. -/
def endLine (text : List Char) : Option (List Char) :=
  let rest :=
    match skipGap text with
    | '#' :: rest =>
        rest.dropWhile isPlain
    | rest => rest
  match rest with
  | [] => some []
  | '\n' :: rest => some rest
  | '\r' :: '\n' :: rest => some rest
  | _ => none

/-! ## Values -/

/-- The characters of values without quotes and brackets. -/
def isScalarChar (c : Char) : Bool :=
  c.isAlphanum || c == '_' || c == '-' || c == '+' || c == '.' || c == ':'

/-- A value without quotes and brackets, with what follows.  Between a date and a time of day there may be
a single space. -/
def readScalar (text : List Char) : Option (Toml × List Char) :=
  let word := text.takeWhile isScalarChar
  let rest := text.dropWhile isScalarChar
  match rest with
  | ' ' :: c :: more =>
      if isDate word && c.isDigit then
        (scalar? (word ++ ' ' :: (c :: more).takeWhile isScalarChar)).map fun value =>
          (value, (c :: more).dropWhile isScalarChar)
      else (scalar? word).map fun value => (value, rest)
  | _ => (scalar? word).map fun value => (value, rest)

mutual

/-- A value, with what follows.  `depth` says how many more brackets and braces may be opened. -/
def readValue : (fuel depth : Nat) → List Char → Option (Toml × List Char)
  | 0, _, _ => none
  | fuel + 1, depth, chars =>
      match chars with
      | '"' :: _ => (readText chars).map fun (value, rest) => (.text value, rest)
      | '\'' :: _ => (readText chars).map fun (value, rest) => (.text value, rest)
      | '[' :: rest =>
          match depth with
          | 0 => none
          | depth + 1 => readItems fuel depth [] rest
      | '\x7b' :: rest =>
          match depth with
          | 0 => none
          | depth + 1 => readEntries fuel depth [] rest
      | _ => readScalar chars

/-- The items of an array from the next one on, or its end. -/
def readItems : (fuel depth : Nat) → (done : List Toml) → List Char → Option (Toml × List Char)
  | 0, _, _, _ => none
  | fuel + 1, depth, done, chars => do
      match ← skipVoid false chars with
      | ']' :: rest => return (.array false done, rest)
      | next =>
          let (value, rest) ← readValue fuel depth next
          match ← skipVoid false rest with
          | ',' :: rest => readItems fuel depth (done ++ [value]) rest
          | ']' :: rest => return (.array false (done ++ [value]), rest)
          | _ => none

/-- The entries of a table in braces from the next one on, or its end. -/
def readEntries : (fuel depth : Nat) → (done : Entries) → List Char → Option (Toml × List Char)
  | 0, _, _, _ => none
  | fuel + 1, depth, done, chars => do
      match ← skipVoid false chars with
      | '\x7d' :: rest => return (.table .inline done, rest)
      | next =>
          let (key, rest) ← readKey (next.length + 1) next
          match rest with
          | '=' :: rest =>
              let (value, rest) ← readValue fuel depth (skipGap rest)
              let done ← atPath .dottedKey (define value) key done
              match ← skipVoid false rest with
              | ',' :: rest => readEntries fuel depth done rest
              | '\x7d' :: rest => return (.table .inline done, rest)
              | _ => none
          | _ => none

end

/-! ## Lines -/

/-- A file up to a line: the entries read, and the path of the table that was opened last. -/
structure Draft where
  entries : Entries
  current : List String

/-- The path of a header, with what follows its closing brackets. -/
def readHeader (closing : String) (text : List Char) : Option (List String × List Char) := do
  let (path, rest) ← readKey (text.length + 1) text
  let rest ← closing.toList.isPrefixOf? rest
  return (path, ← endLine rest)

/-- Read the line that a text starts with; what follows it is returned as well. -/
def readLine (draft : Draft) (text : List Char) : Option (Draft × List Char) := do
  match skipGap text with
  | '[' :: '[' :: rest =>
      let (path, rest) ← readHeader "]]" rest
      return (⟨← atPath .header openItem path draft.entries, path⟩, rest)
  | '[' :: rest =>
      let (path, rest) ← readHeader "]" rest
      return (⟨← atPath .header openTable path draft.entries, path⟩, rest)
  | next =>
      match endLine next with
      | some rest => return (draft, rest)
      | none =>
          let (key, rest) ← readKey (next.length + 1) next
          match rest with
          | '=' :: rest =>
              let (value, rest) ← readValue (2 * rest.length + 2) depthLimit (skipGap rest)
              let rest ← endLine rest
              let entries ←
                within .header (atPath .dottedKey (define value) key) draft.current draft.entries
              return (⟨entries, draft.current⟩, rest)
          | _ => none

def readAll : (fuel : Nat) → Draft → List Char → Option Draft
  | _, draft, [] => some draft
  | 0, _, _ => none
  | fuel + 1, draft, chars => do
      let (draft, rest) ← readLine draft chars
      readAll fuel draft rest

/-- The table that a file holds.  A mark for the order of bytes may stand in front. -/
def read? (file : String) : Option Toml :=
  let text :=
    match file.toList with
    | '\ufeff' :: rest => rest
    | chars => chars
  (readAll (text.length + 1) ⟨[], []⟩ text).map fun draft => .table .opened draft.entries

end Toml
end Fleet
