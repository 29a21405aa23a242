import Fleet.Number.Binary64
import Fleet.Yaml.Node

namespace Fleet
namespace Yaml

/-!
# The values of a document

A node stands for a value.  A plain scalar may be a number, a truth value or nothing; any other scalar is a
text, unless a standard tag asks for one of those.  A tag of the document's own wraps the value and changes
nothing else.

Aliases are replaced by what they stand for.  Since they can repeat and even contain one another, both the
depth of the value and the number of aliases followed are limited.
-/

/-- A floating-point number. -/
inductive Real where
  | finite (x : Binary64)
  | infinite (negative : Bool)
  | notANumber
  deriving DecidableEq

/-- Whether two numbers count as one key: the two zeros do, and not-a-number is one key. -/
def Real.same : Real → Real → Bool
  | finite x, finite y => x == y || (x.isZero && y.isZero)
  | left, right => left == right

/-- A value.  The keys of a mapping differ from one another. -/
inductive Value where
  | null
  | bool (value : Bool)
  | whole (n : Int)
  | real (x : Real)
  | text (text : String)
  | sequence (items : List Value)
  | mapping (entries : List (Value × Value))
  | tagged (tag : String) (value : Value)

namespace Value

mutual

/-- Whether two values count as one key.  The order of the entries of a mapping does not matter. -/
def same : Value → Value → Bool
  | null, null => true
  | bool left, bool right => left == right
  | whole left, whole right => left == right
  | real left, real right => left.same right
  | text left, text right => left == right
  | sequence left, sequence right => sameItems left right
  | mapping left, mapping right => left.length == right.length && sameEntries left right
  | tagged leftTag left, tagged rightTag right => leftTag == rightTag && same left right
  | _, _ => false

def sameItems : List Value → List Value → Bool
  | [], [] => true
  | left :: rest, right :: others => same left right && sameItems rest others
  | _, _ => false

def sameEntries : List (Value × Value) → List (Value × Value) → Bool
  | [], _ => true
  | (key, value) :: rest, others =>
      others.any (fun entry => same key entry.1 && same value entry.2) && sameEntries rest others

end

/-! ## Looking into values -/

def untagged : Value → Value
  | tagged _ value => untagged value
  | value => value

def get? (value : Value) (key : String) : Option Value :=
  match value.untagged with
  | mapping entries =>
      let hit := entries.find? fun entry =>
        match entry.1 with
        | text name => name == key
        | _ => false
      hit.map Prod.snd
  | _ => none

def whole? (value : Value) : Option Int :=
  match value.untagged with
  | whole n => some n
  | _ => none

def bool? (value : Value) : Option Bool :=
  match value.untagged with
  | bool b => some b
  | _ => none

def text? (value : Value) : Option String :=
  match value.untagged with
  | text s => some s
  | _ => none

def items? (value : Value) : Option (List Value) :=
  match value.untagged with
  | sequence items => some items
  | _ => none

end Value

/-! ## Scalars -/

namespace Scalar

def isNull (text : String) : Bool :=
  ["null", "Null", "NULL", "~"].contains text

def bool? (text : String) : Option Bool :=
  if ["true", "True", "TRUE"].contains text then some true
  else if ["false", "False", "FALSE"].contains text then some false
  else none

def withoutPlus : List Char → List Char
  | '+' :: rest => rest
  | text => text

def isSigned (text : List Char) : Bool :=
  text.head? == some '+' || text.head? == some '-'

/-- Digits with a zero in front, which are no number but a text. -/
def isPadded (text : List Char) : Bool :=
  let digits := if isSigned text then text.drop 1 else text
  1 < digits.length && digits.head? == some '0' && digits.all Char.isDigit

/-- The magnitude of a number that is marked as hexadecimal, octal or binary. -/
def marked? (text : List Char) : Option Nat :=
  match text with
  | '0' :: 'x' :: digits => Number.natural? 16 digits
  | '0' :: 'o' :: digits => Number.natural? 8 digits
  | '0' :: 'b' :: digits => Number.natural? 2 digits
  | _ => none

def natural? (text : List Char) : Option Nat :=
  (marked? (withoutPlus text)).or
    (if isPadded text then none else Number.natural? 10 (withoutPlus text))

def negative? (text : List Char) : Option Nat :=
  match text with
  | '-' :: magnitude =>
      (marked? magnitude).or (if isPadded text then none else Number.natural? 10 magnitude)
  | _ => none

def whole? (text : List Char) : Option Int :=
  ((natural? text).map Int.ofNat).or ((negative? text).map fun n => -Int.ofNat n)

/-- Digits, a fraction and a power of ten, each of which may be missing, but not all digits. -/
def decimal? (negative : Bool) (text : List Char) : Option Binary64 := do
  let digits := text.takeWhile Char.isDigit
  let rest := text.dropWhile Char.isDigit
  let (places, rest) :=
    match rest with
    | '.' :: rest => (rest.takeWhile Char.isDigit, rest.dropWhile Char.isDigit)
    | _ => ([], rest)
  let significand ← Number.natural? 10 (digits ++ places)
  let power ←
    match rest with
    | [] => some 0
    | mark :: rest => if mark == 'e' || mark == 'E' then Number.integer? 10 rest else none
  Binary64.ofDecimal negative significand (power - Int.ofNat places.length)

def real? (text : List Char) : Option Real :=
  let plain := withoutPlus text
  if text.head? == some '+' && isSigned plain then none
  else if [".inf", ".Inf", ".INF"].contains (String.ofList plain) then some (.infinite false)
  else if ["-.inf", "-.Inf", "-.INF"].contains (String.ofList text) then some (.infinite true)
  else if [".nan", ".NaN", ".NAN"].contains (String.ofList text) then some .notANumber
  else
    match plain with
    | '-' :: magnitude => (decimal? true magnitude).map .finite
    | magnitude => (decimal? false magnitude).map .finite

/-- A whole number as a value.  Only those that fit 64 bits have one; larger ones that fit 128 bits are
an error, and those beyond are not numbers at all. -/
def wholeValue? (text : List Char) : Option (Option Value) :=
  match whole? text with
  | none => none
  | some n =>
      if Number.fits64 n then some (some (.whole n))
      else if Number.fits128 n then some none
      else none

def plainValue (text : String) : Option Value :=
  if text.isEmpty || isNull text then some .null
  else
    match bool? text with
    | some b => some (.bool b)
    | none =>
        match wholeValue? text.toList with
        | some value => value
        | none =>
            if isPadded text.toList then some (.text text)
            else
              match real? text.toList with
              | some x => some (.real x)
              | none => some (.text text)

/-- The value of a scalar with a tag that is not the document's own. -/
def standardValue (tag text : String) : Option Value :=
  if tag == "tag:yaml.org,2002:bool" then (bool? text).map .bool
  else if tag == "tag:yaml.org,2002:int" then (wholeValue? text.toList).getD none
  else if tag == "tag:yaml.org,2002:float" then (real? text.toList).map .real
  else if tag == "tag:yaml.org,2002:null" then if isNull text then some .null else none
  else some (.text text)

end Scalar

/-! ## Nodes -/

def localTag? (tag : Option String) : Option String :=
  match tag.map String.toList with
  | some ['!'] => some "!"
  | some ('!' :: name) => some (String.ofList name)
  | _ => none

/-- Put the tag of a node around its value if it is the document's own. -/
def withTag (tag : Option String) (value : Value) : Value :=
  match localTag? tag with
  | some name => .tagged name value
  | none => value

/-- What the resolution of a document needs to know: its anchors, and how many aliases may be followed. -/
structure Document where
  root : Node
  anchors : List (Nat × Node)
  aliasLimit : Nat

/-- A step of a resolution, which counts the aliases that were followed. -/
abbrev Resolve := StateT Nat Option

namespace Document

def ofRoot (root : Node) : Document :=
  ⟨root, root.anchors.reverse, 100 * root.weight⟩

def follow (document : Document) (node : Node) : Resolve Node :=
  match node with
  | .anchored _ node => return node
  | .reference anchor => do
      let count ← get
      if document.aliasLimit < count + 1 then failure
      set (count + 1)
      match document.anchors.find? fun entry => entry.1 == anchor with
      | some (_, .anchored _ node) => return node
      | some (_, node) => return node
      | none => failure
  | node => return node

/-- Collect entries; a key must not occur twice. -/
def collect : (done : List (Value × Value)) → List (Value × Value) → Option (List (Value × Value))
  | done, [] => some done.reverse
  | done, entry :: rest =>
      if done.any fun other => other.1.same entry.1 then none else collect (entry :: done) rest

/-- The value of a node with at most `depth` collections inside one another. -/
def valueOf (document : Document) : (depth : Nat) → Node → Resolve Value
  | depth, node => do
      match ← document.follow node with
      | .scalar tag plain text =>
          match tag, localTag? tag with
          | some _, some _ =>
              let value ← if plain then StateT.lift (Scalar.plainValue text) else pure (.text text)
              return withTag tag value
          | some tag, none => StateT.lift (Scalar.standardValue tag text)
          | none, _ => if plain then StateT.lift (Scalar.plainValue text) else return .text text
      | .sequence tag items =>
          match depth with
          | 0 => failure
          | depth + 1 => return withTag tag (.sequence (← items.mapM (document.valueOf depth)))
      | .mapping tag entries =>
          match depth with
          | 0 => failure
          | depth + 1 => do
              let entries ← entries.mapM fun entry => do
                return (← document.valueOf depth entry.1, ← document.valueOf depth entry.2)
              return withTag tag (.mapping (← StateT.lift (collect [] entries)))
      | _ => failure

def depthLimit : Nat := 128

def value? (document : Document) : Option Value :=
  ((document.valueOf depthLimit document.root).run 0).map Prod.fst

end Document

/-- The values of the documents of a text; none if anything in it is malformed. -/
def values? (text : String) : Option (List Value) := do
  let roots ← documents? text.toList
  roots.mapM fun root => (Document.ofRoot root).value?

end Yaml
end Fleet
