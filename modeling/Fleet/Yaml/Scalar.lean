import Fleet.Number.Numeral
import Fleet.Yaml.Cursor

namespace Fleet
namespace Yaml

/-!
# Scalars

The four ways to write a scalar: plain, in single or double quotes, and as a block of lines.  Each reader
gives the text that the scalar stands for and the place after it, or nothing when the scalar is
malformed.

Between two stretches of visible characters there is a gap.  A gap within a line keeps its blanks; a gap
with line breaks is folded: one break becomes a space, and of several the first is dropped.
-/

/-- What lies between two stretches of visible characters. -/
structure Gap where
  /-- Whether the gap contains a line break. -/
  folded : Bool
  /-- The blanks before any line break. -/
  blanks : List Char
  /-- The text of the first line break. -/
  first : List Char
  /-- The text of the others. -/
  more : List Char

namespace Gap

def none : Gap :=
  ⟨false, [], [], []⟩

def text (gap : Gap) : List Char :=
  if !gap.folded then gap.blanks
  else if gap.first.head? == some '\n' then
    if gap.more.isEmpty then [' '] else gap.more
  else gap.first ++ gap.more

/-- Read a gap to its end.  `margin` is the column before which a tab must not stand on a new line, if
there is one. -/
def read (margin : Option Nat) : (fuel : Nat) → Gap → Cursor → Option (Gap × Cursor)
  | 0, _, _ => Option.none
  | fuel + 1, gap, c =>
      match c.next with
      | Option.none => some (gap, c)
      | some char =>
          if isBlank char then
            if gap.folded then
              if char == '\t' && margin.any (fun column => c.column < column) then Option.none
              else read margin fuel gap c.skip
            else read margin fuel { gap with blanks := gap.blanks ++ [char] } c.skip
          else if isBreak char then
            if gap.folded then
              read margin fuel { gap with more := gap.more ++ c.breakHere } c.skipBreak
            else
              read margin fuel { gap with folded := true, blanks := [], first := c.breakHere }
                c.skipBreak
          else some (gap, c)

end Gap

/-! ## Plain scalars -/

/-- The visible characters of a plain scalar up to a gap or a mark that ends it, and what follows them.
Inside flow collections a colon in front of another mark is an error. -/
def plainRun (flow : Bool) : List Char → Option (List Char × List Char)
  | [] => some ([], [])
  | c :: rest =>
      if isBlank c || isBreak c then some ([], c :: rest)
      else if flow && c == ':' && rest.head?.any (fun d => [',', '?', '[', ']', '{', '}'].contains d)
      then none
      else if c == ':' && blankOrEnd rest.head? then some ([], c :: rest)
      else if flow && [',', '[', ']', '{', '}'].contains c then some ([], c :: rest)
      else (plainRun flow rest).map fun run => (c :: run.1, run.2)

/-- The rest of a plain scalar, after the text already read (last character first) and a gap.  Besides
the text it tells whether the scalar was followed by a line break. -/
def plainFrom (flow : Bool) (margin : Nat) :
    (fuel : Nat) → (done : List Char) → Gap → Cursor → Option (List Char × Bool × Cursor)
  | 0, _, _, _ => none
  | fuel + 1, done, gap, c =>
      if c.atDocumentMark || c.sees '#' then some (done.reverse, gap.folded, c)
      else do
        let (run, _) ← plainRun flow c.text
        let done := if run.isEmpty then done else run.reverse ++ gap.text.reverse ++ done
        let gap := if run.isEmpty then gap else Gap.none
        let c := c.skip run.length
        if c.seesAny fun char => isBlank char || isBreak char then
          let (gap, c) ← Gap.read (some margin) (c.text.length + 1) gap c
          if !flow && c.column < margin then some (done.reverse, gap.folded, c)
          else plainFrom flow margin fuel done gap c
        else some (done.reverse, gap.folded, c)

/-! ## Quoted scalars -/

/-- What stands after a backslash: a character, or the number of hexadecimal digits that give one. -/
def escape? (c : Char) : Option (Char ⊕ Nat) :=
  match c with
  | '0' => some (.inl (Char.ofNat 0))
  | 'a' => some (.inl (Char.ofNat 7))
  | 'b' => some (.inl (Char.ofNat 8))
  | 't' => some (.inl '\t')
  | '\t' => some (.inl '\t')
  | 'n' => some (.inl '\n')
  | 'v' => some (.inl (Char.ofNat 11))
  | 'f' => some (.inl (Char.ofNat 12))
  | 'r' => some (.inl '\r')
  | 'e' => some (.inl (Char.ofNat 27))
  | ' ' => some (.inl ' ')
  | '"' => some (.inl '"')
  | '/' => some (.inl '/')
  | '\\' => some (.inl '\\')
  | 'N' => some (.inl (Char.ofNat 0x85))
  | '_' => some (.inl (Char.ofNat 0xA0))
  | 'L' => some (.inl (Char.ofNat 0x2028))
  | 'P' => some (.inl (Char.ofNat 0x2029))
  | 'x' => some (.inr 2)
  | 'u' => some (.inr 4)
  | 'U' => some (.inr 8)
  | _ => none

/-- The visible characters of a quoted scalar up to a gap or its closing quote.  Besides them and the place
after them it tells whether they ended with an escaped line break. -/
def quotedRun (single : Bool) :
    (fuel : Nat) → (done : List Char) → Cursor → Option (List Char × Bool × Cursor)
  | 0, _, _ => none
  | fuel + 1, done, c =>
      match c.text with
      | [] => some (done, false, c)
      | char :: rest =>
          if isBlank char || isBreak char then some (done, false, c)
          else if single && char == '\'' && rest.head? == some '\'' then
            quotedRun single fuel ('\'' :: done) (c.skip 2)
          else if char == (if single then '\'' else '"') then some (done, false, c)
          else if !single && char == '\\' then
            match rest with
            | [] => none
            | code :: _ =>
                if isBreak code then some (done, true, c.skip.skipBreak)
                else
                  match escape? code with
                  | none => none
                  | some (.inl char) => quotedRun single fuel (char :: done) (c.skip 2)
                  | some (.inr size) => do
                      let digits := (c.skip 2).text.take size
                      if digits.length < size then none
                      let point ← Number.natural? 16 digits
                      if (0xD800 ≤ point && point ≤ 0xDFFF) || 0x10FFFF < point then none
                      quotedRun single fuel (Char.ofNat point :: done) (c.skip (2 + size))
          else quotedRun single fuel (char :: done) c.skip

/-- The rest of a quoted scalar after its opening quote. -/
def quotedFrom (single : Bool) :
    (fuel : Nat) → (done : List Char) → Cursor → Option (List Char × Cursor)
  | 0, _, _ => none
  | fuel + 1, done, c =>
      if c.atDocumentMark || c.text.isEmpty then none
      else do
        let (done, escapedBreak, c) ← quotedRun single (c.text.length + 1) done c
        if !escapedBreak && c.sees (if single then '\'' else '"') then
          some (done.reverse, c.skip)
        else
          let (gap, c) ←
            Gap.read none (c.text.length + 1) { Gap.none with folded := escapedBreak } c
          quotedFrom single fuel (gap.text.reverse ++ done) c

/-! ## Block scalars -/

/-- What becomes of the line breaks at the end of a block scalar. -/
inductive Chomping where
  | strip
  | clip
  | keep
  deriving DecidableEq

/-- The header of a block scalar: chomping, and the indentation when it is given. -/
def blockHeader (c : Cursor) : Option (Chomping × Nat × Cursor) := do
  let chomping (c : Cursor) : Chomping × Cursor :=
    if c.sees '+' then (.keep, c.skip)
    else if c.sees '-' then (.strip, c.skip)
    else (.clip, c)
  let indentation (c : Cursor) : Option (Nat × Cursor) :=
    match c.next with
    | some digit =>
        if digit.isDigit then
          if digit == '0' then none else some (digit.toNat - '0'.toNat, c.skip)
        else some (0, c)
    | none => some (0, c)
  let (tail, indent, c) ←
    if c.sees '+' || c.sees '-' then do
      let (tail, c) := chomping c
      let (indent, c) ← indentation c
      pure (tail, indent, c)
    else do
      let (indent, c) ← indentation c
      if indent == 0 then
        pure (Chomping.clip, 0, c)
      else
        let (tail, c) := chomping c
        pure (tail, indent, c)
  let c := c.skipWhile isBlank
  let c := if c.sees '#' then c.skipWhile (fun char => !isBreak char) else c
  if breakOrEnd c.next then some (tail, indent, if c.text.isEmpty then c else c.skipBreak) else none

/-- The empty lines from here on, with their line breaks, and the indentation of the block.  When that is
not known yet (`indent = 0`), the deepest line decides, but it is at least `least`. -/
def blockBreaks (least : Nat) (indent : Nat) :
    (fuel : Nat) → (deepest : Nat) → (breaks : List Char) → Cursor →
      Option (Nat × List Char × Cursor)
  | 0, _, _, _ => none
  | fuel + 1, deepest, breaks, c =>
      let spaces := (c.text.takeWhile (· == ' ')).length
      let c := c.skip (if indent == 0 then spaces else min spaces (indent - c.column))
      let deepest := max deepest c.column
      if (indent == 0 || c.column < indent) && c.sees '\t' then none
      else if c.seesAny isBreak then
        blockBreaks least indent fuel deepest (breaks ++ c.breakHere) c.skipBreak
      else some (if indent == 0 then max deepest least else indent, breaks, c)

/-- The lines of a block scalar.  `first` is the break after the last line read, `more` the breaks of the
empty lines after it, and `blank` tells whether that line started with a blank. -/
def blockLines (literal : Bool) (indent : Nat) :
    (fuel : Nat) → (done : List Char) → (first more : List Char) → (blank : Bool) → Cursor →
      Option (List Char × List Char × List Char × Cursor)
  | 0, _, _, _, _, _ => none
  | fuel + 1, done, first, more, blank, c =>
      if c.column == indent && !c.text.isEmpty then do
        let startsBlank := c.seesAny isBlank
        let joint :=
          if !literal && first.head? == some '\n' && !blank && !startsBlank then
            if more.isEmpty then [' '] else []
          else first
        let line := c.text.takeWhile (fun char => !isBreak char)
        let c := c.skip line.length
        let next := c.breakHere
        let c := if c.text.isEmpty then c else c.skipBreak
        let (_, breaks, c) ← blockBreaks indent indent (c.text.length + 1) 0 [] c
        blockLines literal indent fuel (line.reverse ++ more.reverse ++ joint.reverse ++ done)
          next breaks startsBlank c
      else some (done, first, more, c)

/-- A block scalar after its indicator.  `parent` is the indentation of the collection that it stands in. -/
def blockScalar (literal : Bool) (parent : Int) (c : Cursor) : Option (List Char × Cursor) := do
  let (tail, increment, c) ← blockHeader c
  let base := parent.toNat
  let indent := if increment == 0 then 0 else base + increment
  let least := max (parent + 1).toNat 1
  let (indent, breaks, c) ← blockBreaks least indent (c.text.length + 1) 0 [] c
  let (done, first, more, c) ← blockLines literal indent (c.text.length + 1) [] [] breaks false c
  let ending :=
    match tail with
    | .strip => []
    | .clip => first
    | .keep => first ++ more
  some (done.reverse ++ ending, c)

end Yaml
end Fleet
