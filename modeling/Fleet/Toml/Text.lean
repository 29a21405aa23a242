import Fleet.Number.Numeral

namespace Fleet
namespace Toml

/-!
# Texts of configuration files

Between double quotes a backslash gives the next characters another meaning, between single quotes nothing
does.  Three quotes instead of one allow for several lines; the line break right after them does not
belong to the text, and up to two quotes right before the closing ones do.
-/

def isGap (c : Char) : Bool :=
  c == ' ' || c == '\t'

def skipGap (text : List Char) : List Char :=
  text.dropWhile isGap

/-- The characters that stand for themselves within a line. -/
def isPlain (c : Char) : Bool :=
  c == '\t' || (32 ≤ c.toNat && c.toNat != 127)

/-- The character of a number, if there is one. -/
def character? (n : Nat) : Option Char :=
  if n.isValidChar then some (Char.ofNat n) else none

/-- The character of a number that is written with hexadecimal digits of a fixed count. -/
def hexCharacter? (count : Nat) (text : List Char) : Option (Char × List Char) := do
  if text.length < count then
    none
  let c ← character? (← Number.natural? 16 (text.take count))
  return (c, text.drop count)

/-- What a backslash in front of the text stands for, with what follows. -/
def escaped? : List Char → Option (Char × List Char)
  | 'b' :: rest => some (Char.ofNat 8, rest)
  | 't' :: rest => some ('\t', rest)
  | 'n' :: rest => some ('\n', rest)
  | 'f' :: rest => some (Char.ofNat 12, rest)
  | 'r' :: rest => some ('\r', rest)
  | 'e' :: rest => some (Char.ofNat 27, rest)
  | '"' :: rest => some ('"', rest)
  | '\\' :: rest => some ('\\', rest)
  | 'x' :: rest => hexCharacter? 2 rest
  | 'u' :: rest => hexCharacter? 4 rest
  | 'U' :: rest => hexCharacter? 8 rest
  | _ => none

/-- A text up to its closing quote, with what follows. -/
abbrev Quoted := Option (String × List Char)

def finished (done : List Char) (rest : List Char) : Quoted :=
  some (String.ofList done.reverse, rest)

def readBasic : (fuel : Nat) → (done : List Char) → List Char → Quoted
  | 0, _, _ => none
  | _, _, [] => none
  | _ + 1, done, '"' :: rest => finished done rest
  | fuel + 1, done, '\\' :: rest =>
      match escaped? rest with
      | some (c, rest) => readBasic fuel (c :: done) rest
      | none => none
  | fuel + 1, done, c :: rest => if isPlain c then readBasic fuel (c :: done) rest else none

def readLiteral : (done : List Char) → List Char → Quoted
  | _, [] => none
  | done, '\'' :: rest => finished done rest
  | done, c :: rest => if isPlain c then readLiteral (c :: done) rest else none

/-- The text without the line break that it starts with. -/
def dropBreak : List Char → List Char
  | '\n' :: rest => rest
  | '\r' :: '\n' :: rest => rest
  | other => other

/-- What follows a backslash at the end of a line: the text from the next character on that is no gap and
no line break. -/
def joined? (text : List Char) : Option (List Char) :=
  match skipGap text with
  | '\n' :: rest => some (rest.dropWhile fun c => isGap c || c == '\n' || c == '\r')
  | '\r' :: '\n' :: rest => some (rest.dropWhile fun c => isGap c || c == '\n' || c == '\r')
  | _ => none

/-- The rest of a text of several lines between quotes of a kind. -/
def readLines (quote : Char) : (fuel : Nat) → (done : List Char) → List Char → Quoted
  | 0, _, _ => none
  | _, _, [] => none
  | fuel + 1, done, '\n' :: rest => readLines quote fuel ('\n' :: done) rest
  | fuel + 1, done, '\r' :: '\n' :: rest => readLines quote fuel ('\n' :: '\r' :: done) rest
  | fuel + 1, done, c :: rest =>
      if c == quote then
        let quotes := (rest.takeWhile (· == quote)).length + 1
        if quotes < 3 then readLines quote fuel (c :: done) rest
        else
          let own := min quotes 5 - 3
          finished (List.replicate own quote ++ done) (rest.drop (own + 2))
      else if c == '\\' && quote == '"' then
        match joined? rest with
        | some rest => readLines quote fuel done rest
        | none =>
            match escaped? rest with
            | some (c, rest) => readLines quote fuel (c :: done) rest
            | none => none
      else if isPlain c then readLines quote fuel (c :: done) rest
      else none

/-- A text of any kind, if one starts here. -/
def readText (text : List Char) : Quoted :=
  match text with
  | '"' :: '"' :: '"' :: rest => readLines '"' (rest.length + 1) [] (dropBreak rest)
  | '\'' :: '\'' :: '\'' :: rest => readLines '\'' (rest.length + 1) [] (dropBreak rest)
  | '"' :: rest => readBasic (rest.length + 1) [] rest
  | '\'' :: rest => readLiteral [] rest
  | _ => none

/-! ## Keys -/

def isKeyChar (c : Char) : Bool :=
  c.isAlphanum || c == '_' || c == '-'

/-- One part of a key, with what follows. -/
def readPart (text : List Char) : Quoted :=
  match text with
  | '"' :: rest => readBasic (rest.length + 1) [] rest
  | '\'' :: rest => readLiteral [] rest
  | _ =>
      let part := text.takeWhile isKeyChar
      if part.isEmpty then none else some (String.ofList part, text.dropWhile isKeyChar)

/-- A key with all its parts, and what follows it and the gap behind it. -/
def readKey : (fuel : Nat) → List Char → Option (List String × List Char)
  | 0, _ => none
  | fuel + 1, chars => do
      let (part, rest) ← readPart (skipGap chars)
      match skipGap rest with
      | '.' :: rest =>
          let (parts, rest) ← readKey fuel rest
          return (part :: parts, rest)
      | rest => return ([part], rest)

end Toml
end Fleet
