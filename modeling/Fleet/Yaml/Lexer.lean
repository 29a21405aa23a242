import Fleet.Yaml.Scalar

namespace Fleet
namespace Yaml

/-!
# From text to tokens

The text of a stream is cut into tokens in one pass, before its nodes are put together.  Indentation is turned into
pairs of opening and closing marks, and a key is announced in front of the node that it turns out to be.  So two things
need memory.  Indentation: whenever a block
collection starts deeper than the one around it, its column is remembered, and the collection ends with the
first token that stands to the left of it.  And keys: a plain key looks like any other node until its colon
comes, so the place of every token that could start a key is remembered, one place for each level of flow
collections, and the mark of the key is inserted there afterwards.  A key has to be on one line and within
1024 characters.
-/

/-- A mark in the text of a stream of documents. -/
inductive Token where
  | streamEnd
  | version (major minor : Nat)
  | tagHandle (handle expansion : String)
  | documentStart
  | documentEnd
  | blockSequenceStart
  | blockMappingStart
  | blockEnd
  | flowSequenceStart
  | flowSequenceEnd
  | flowMappingStart
  | flowMappingEnd
  | blockEntry
  | flowEntry
  | key
  | value
  | reference (name : String)
  | anchor (name : String)
  | tag (handle suffix : String)
  | scalar (plain : Bool) (text : String)
  deriving DecidableEq

/-- A place where a key may have started. -/
structure PendingKey where
  /-- Whether nothing else can stand at this place. -/
  required : Bool
  /-- The number of the token that starts the key. -/
  token : Nat
  start : Cursor

/-- What the lexer remembers between two tokens. -/
structure Lexer where
  cursor : Cursor
  /-- The tokens found so far, last first. -/
  found : List Token
  /-- The column of the innermost block collection; -1 outside of all. -/
  indent : Int
  /-- The columns of the collections around it, inner ones first. -/
  outer : List Int
  /-- Whether a key may start at this place. -/
  keyAllowed : Bool
  /-- The place where a key of the innermost level may have started. -/
  pending : Option PendingKey
  /-- The same for the flow collections around, and the block level last. -/
  enclosing : List (Option PendingKey)

namespace Lexer

def start (text : List Char) : Lexer :=
  ⟨Cursor.start text, [], -1, [], true, none, []⟩

def inFlow (s : Lexer) : Bool :=
  !s.enclosing.isEmpty

def goto (s : Lexer) (cursor : Cursor) : Lexer :=
  { s with cursor }

def emit (s : Lexer) (token : Token) : Lexer :=
  { s with found := token :: s.found }

def insertAt (s : Lexer) (number : Nat) (token : Token) : Lexer :=
  let later := s.found.length - number
  { s with found := s.found.take later ++ token :: s.found.drop later }

/-- Give up the pending key of this level; one that is required cannot be given up. -/
def dropKey (s : Lexer) : Option Lexer :=
  match s.pending with
  | some key => if key.required then none else some { s with pending := none }
  | none => some s

def saveKey (s : Lexer) : Option Lexer :=
  if s.keyAllowed then do
    let required := !s.inFlow && s.indent == Int.ofNat s.cursor.column
    let s ← s.dropKey
    some { s with pending := some ⟨required, s.found.length, s.cursor⟩ }
  else some s

def allowKey (s : Lexer) (allowed : Bool) : Lexer :=
  { s with keyAllowed := allowed }

/-- Whether a place is too far back for a key that starts there. -/
def isStale (s : Lexer) (key : PendingKey) : Bool :=
  key.start.line < s.cursor.line || key.start.index + 1024 < s.cursor.index

def refresh (s : Lexer) (pending : Option PendingKey) : Option (Option PendingKey) :=
  match pending with
  | some key =>
      if !s.isStale key then some pending
      else if key.required then none
      else some none
  | none => some none

/-- Give up the pending keys that are too far back, on all levels. -/
def refreshAll (s : Lexer) : Option Lexer := do
  let enclosing ← s.enclosing.mapM s.refresh
  let pending ← s.refresh s.pending
  some { s with pending, enclosing }

/-- Start a block collection in a column that is deeper than the current one; `number` says in front of
which token. -/
def indentTo (s : Lexer) (column number : Nat) (token : Token) : Lexer :=
  if !s.inFlow && s.indent < Int.ofNat column then
    { s.insertAt number token with indent := Int.ofNat column, outer := s.indent :: s.outer }
  else s

/-- End the block collections that are deeper than a column. -/
def unindentTo (column : Int) : (outer : List Int) → Lexer → Lexer
  | [], s => s
  | next :: rest, s =>
      if column < s.indent then
        unindentTo column rest { s.emit .blockEnd with indent := next, outer := rest }
      else s

/-- End the block collections that are deeper than a column, unless in a flow collection. -/
def unindent (s : Lexer) (column : Int) : Lexer :=
  if s.inFlow then s else unindentTo column s.outer s

/-- Go to the next token, past blanks, comments and line breaks.  A tab is a blank only where no key can
start. -/
def skipToToken : (fuel : Nat) → Lexer → Lexer
  | 0, s => s
  | fuel + 1, s =>
      let c := s.cursor
      let c := if c.index == 0 && c.sees (Char.ofNat 0xFEFF) then c.skip else c
      let tabs := s.inFlow || !s.keyAllowed
      let c := c.skipWhile fun char => char == ' ' || (tabs && char == '\t')
      let c := if c.sees '#' then c.skipWhile (fun char => !isBreak char) else c
      if c.seesAny isBreak then
        skipToToken fuel ((s.goto c.skipBreak).allowKey (s.keyAllowed || !s.inFlow))
      else s.goto c

/-! ## Directives, anchors and tags -/

def versionNumber (c : Cursor) : Option (Nat × Cursor) := do
  let digits := c.text.takeWhile Char.isDigit
  if 9 < digits.length then none
  let n ← Number.natural? 10 digits
  some (n, c.skip digits.length)

/-- Whether a character may stand in a tag; in some places also the marks of flow sequences may. -/
def isTagChar (flowMarks : Bool) (c : Char) : Bool :=
  isWordChar c || ";/?:@&=+$.%!~*'()".toList.contains c || (flowMarks && ",[]".toList.contains c)

def escapedOctet (text : List Char) : Option (Nat × List Char) :=
  match text with
  | '%' :: high :: low :: rest => (Number.natural? 16 [high, low]).map fun octet => (octet, rest)
  | _ => none

/-- A number of continuation octets, which add to the bits already read. -/
def continuation : (count : Nat) → (point : Nat) → List Char → Option (Nat × List Char)
  | 0, point, text => some (point, text)
  | count + 1, point, text => do
      let (octet, rest) ← escapedOctet text
      if octet / 64 != 2 then none
      continuation count (point * 64 + octet % 64) rest

/-- A character that is written as the escaped octets of its encoding. -/
def escapedChar (text : List Char) : Option (Char × List Char) := do
  let (octet, rest) ← escapedOctet text
  let (count, bits) ←
    if octet < 0x80 then some (0, octet)
    else if octet / 32 == 6 then some (1, octet % 32)
    else if octet / 16 == 14 then some (2, octet % 16)
    else if octet / 8 == 30 then some (3, octet % 8)
    else none
  let (point, rest) ← continuation count bits rest
  some (Char.ofNat point, rest)

def tagChars (flowMarks : Bool) :
    (fuel : Nat) → (done : List Char) → List Char → Option (List Char × List Char)
  | 0, _, _ => none
  | fuel + 1, done, text =>
      match text with
      | [] => some (done.reverse, [])
      | char :: rest =>
          if !isTagChar flowMarks char then some (done.reverse, text)
          else if char == '%' then do
            let (char, rest) ← escapedChar text
            tagChars flowMarks fuel (char :: done) rest
          else tagChars flowMarks fuel (char :: done) rest

/-- The characters of a tag, and the place after them. -/
def tagText (flowMarks : Bool) (c : Cursor) : Option (List Char × Cursor) := do
  let (text, rest) ← tagChars flowMarks (c.text.length + 1) [] c.text
  some (text, c.skip (c.text.length - rest.length))

/-- The beginning of a tag: an exclamation mark, and possibly a word and another one. -/
def tagHandle (c : Cursor) : Option (List Char × Cursor) :=
  match c.text with
  | '!' :: rest =>
      let word := rest.takeWhile isWordChar
      let c := c.skip (1 + word.length)
      if c.sees '!' then some ('!' :: word ++ ['!'], c.skip) else some ('!' :: word, c)
  | _ => none

/-- Whether the beginning of a tag is a handle and not a part of its text. -/
def isHandle (text : List Char) : Bool :=
  1 < text.length && text.getLast? == some '!'

def scanTag (c : Cursor) : Option (Token × Cursor) :=
  if c.ahead 1 == some '<' then do
    let (suffix, c) ← tagText true (c.skip 2)
    if suffix.isEmpty || !c.sees '>' then none
    some (.tag "" (String.ofList suffix), c.skip)
  else do
    let (handle, c) ← tagHandle c
    let (suffix, c) ← tagText false c
    if isHandle handle then
      if suffix.isEmpty then none
      some (.tag (String.ofList handle) (String.ofList suffix), c)
    else
      let suffix := handle.drop 1 ++ suffix
      some (if suffix.isEmpty then .tag "" "!" else .tag "!" (String.ofList suffix), c)

def scanName (c : Cursor) : Option (String × Cursor) :=
  let name := c.text.takeWhile isWordChar
  let c := c.skip name.length
  let ends := blankOrEnd c.next || c.seesAny fun char => "?:,]\x7d%@\x60".toList.contains char
  if name.isEmpty || !ends then none else some (String.ofList name, c)

def scanDirective (c : Cursor) : Option (Token × Cursor) := do
  let name := c.text.takeWhile isWordChar
  let c := c.skip name.length
  if name.isEmpty || !blankOrEnd c.next then none
  let c := c.skipWhile isBlank
  let (token, c) ←
    if name == "YAML".toList then do
      let (major, c) ← versionNumber c
      if !c.sees '.' then none
      let (minor, c) ← versionNumber c.skip
      some (Token.version major minor, c)
    else if name == "TAG".toList then do
      let (handle, c) ← tagHandle c
      if !(handle == ['!'] || isHandle handle) || !c.seesAny isBlank then none
      let (expansion, c) ← tagText true (c.skipWhile isBlank)
      if expansion.isEmpty || !blankOrEnd c.next then none
      some (Token.tagHandle (String.ofList handle) (String.ofList expansion), c)
    else none
  let c := c.skipWhile isBlank
  let c := if c.sees '#' then c.skipWhile (fun char => !isBreak char) else c
  if !breakOrEnd c.next then none
  some (token, if c.text.isEmpty then c else c.skipBreak)

/-! ## Tokens -/

def closeDocument (s : Lexer) : Option Lexer := do
  let s ← (s.unindent (-1)).dropKey
  some (s.allowKey false)

def atEnd (s : Lexer) : Option Lexer := do
  let s ← s.closeDocument
  some (s.emit .streamEnd)

def documentMark (s : Lexer) (token : Token) : Option Lexer := do
  let s ← s.closeDocument
  some ((s.emit token).goto (s.cursor.skip 3))

def directive (s : Lexer) : Option Lexer := do
  let s ← s.closeDocument
  let (token, c) ← scanDirective s.cursor.skip
  some ((s.emit token).goto c)

/-- The beginning of a flow collection, which can itself be a key. -/
def flowStart (s : Lexer) (token : Token) : Option Lexer := do
  let s ← s.saveKey
  let s := { s with pending := none, enclosing := s.pending :: s.enclosing }
  some (((s.allowKey true).emit token).goto s.cursor.skip)

def flowEnd (s : Lexer) (token : Token) : Option Lexer := do
  let s ← s.dropKey
  let s :=
    match s.enclosing with
    | pending :: enclosing => { s with pending, enclosing }
    | [] => s
  some (((s.allowKey false).emit token).goto s.cursor.skip)

def flowEntry (s : Lexer) : Option Lexer := do
  let s ← s.dropKey
  some (((s.allowKey true).emit .flowEntry).goto s.cursor.skip)

/-- Start a block collection at this place if a new one has to start here. -/
def openBlock (s : Lexer) (token : Token) : Option Lexer :=
  if s.inFlow then some s
  else if s.keyAllowed then some (s.indentTo s.cursor.column s.found.length token)
  else none

def blockEntry (s : Lexer) : Option Lexer := do
  let s ← (← s.openBlock .blockSequenceStart).dropKey
  some (((s.allowKey true).emit .blockEntry).goto s.cursor.skip)

def explicitKey (s : Lexer) : Option Lexer := do
  let s ← (← s.openBlock .blockMappingStart).dropKey
  some (((s.allowKey (!s.inFlow)).emit .key).goto s.cursor.skip)

def value (s : Lexer) : Option Lexer := do
  let s ←
    match s.pending with
    | some key =>
        let s := s.insertAt key.token .key
        let s := s.indentTo key.start.column key.token .blockMappingStart
        some ({ s with pending := none }.allowKey false)
    | none => do
        let s ← s.openBlock .blockMappingStart
        some (s.allowKey (!s.inFlow))
  some ((s.emit .value).goto s.cursor.skip)

def named (s : Lexer) (token : String → Token) : Option Lexer := do
  let s ← s.saveKey
  let (name, c) ← scanName s.cursor.skip
  some (((s.allowKey false).emit (token name)).goto c)

/-- A tag, which has to be followed by a blank, or by a comma inside flow collections. -/
def tag (s : Lexer) : Option Lexer := do
  let s ← s.saveKey
  let (token, c) ← scanTag s.cursor
  if !blankOrEnd c.next && !(s.inFlow && c.sees ',') then none
  some (((s.allowKey false).emit token).goto c)

def block (s : Lexer) (literal : Bool) : Option Lexer := do
  let s ← s.dropKey
  let (text, c) ← blockScalar literal s.indent s.cursor.skip
  some (((s.allowKey true).emit (.scalar false (String.ofList text))).goto c)

def quotedScalar (s : Lexer) (single : Bool) : Option Lexer := do
  let s ← s.saveKey
  let c := s.cursor.skip
  let (text, c) ← quotedFrom single (c.text.length + 1) [] c
  some (((s.allowKey false).emit (.scalar false (String.ofList text))).goto c)

def plainScalar (s : Lexer) : Option Lexer := do
  let s ← s.saveKey
  let c := s.cursor
  let (text, followedByBreak, c) ←
    plainFrom s.inFlow (s.indent + 1).toNat (c.text.length + 1) [] Gap.none c
  some (((s.allowKey followedByBreak).emit (.scalar true (String.ofList text))).goto c)

/-- The characters that have a meaning of their own at the beginning of a token. -/
def indicators : List Char :=
  "-?:,[]\x7b\x7d#&*!|>'\"%@\x60".toList

/-- Read one token.  The place is at its first character. -/
def step (s : Lexer) : Option Lexer :=
  let c := s.cursor
  match c.next with
  | none => s.atEnd
  | some char =>
      let blankAfter := blankOrEnd (c.ahead 1)
      if c.column == 0 && char == '%' then s.directive
      else if c.atDocumentMark then
        s.documentMark (if char == '-' then .documentStart else .documentEnd)
      else if char == '[' then s.flowStart .flowSequenceStart
      else if char == '{' then s.flowStart .flowMappingStart
      else if char == ']' then s.flowEnd .flowSequenceEnd
      else if char == '}' then s.flowEnd .flowMappingEnd
      else if char == ',' then s.flowEntry
      else if char == '-' && blankAfter then s.blockEntry
      else if char == '?' && (s.inFlow || blankAfter) then s.explicitKey
      else if char == ':' && (s.inFlow || blankAfter) then s.value
      else if char == '*' then s.named .reference
      else if char == '&' then s.named .anchor
      else if char == '!' then s.tag
      else if char == '|' && !s.inFlow then s.block true
      else if char == '>' && !s.inFlow then s.block false
      else if char == '\'' then s.quotedScalar true
      else if char == '"' then s.quotedScalar false
      else
        let startsPlain :=
          (!isBlank char && !indicators.contains char) || (char == '-') ||
            (!s.inFlow && (char == '?' || char == ':'))
        if startsPlain then s.plainScalar else none

def run : (fuel : Nat) → Lexer → Option (List Token)
  | 0, _ => none
  | fuel + 1, s => do
      let s := skipToToken (s.cursor.text.length + 1) s
      let s ← s.refreshAll
      let s ← (s.unindent (Int.ofNat s.cursor.column)).step
      if s.found.head? == some .streamEnd then some s.found.reverse else run fuel s

end Lexer

def isAllowed (c : Char) : Bool :=
  let n := c.toNat
  n == 9 || n == 10 || n == 13 || (0x20 ≤ n && n ≤ 0x7E) || n == 0x85 || (0xA0 ≤ n && n ≤ 0xD7FF) ||
    (0xE000 ≤ n && n ≤ 0xFFFD) || 0x10000 ≤ n

/-- The tokens of a text; none if it is malformed. -/
def tokens? (text : List Char) : Option (List Token) :=
  if text.all isAllowed then Lexer.run (text.length + 2) (Lexer.start text) else none

end Yaml
end Fleet
