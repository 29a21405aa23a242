import Fleet.Yaml.Lexer

namespace Fleet
namespace Yaml

/-!
# The nodes of a document

Tokens are put together to the nodes of each document of a stream.  A node may carry an anchor, and an
alias stands for the node of its anchor.  Anchors are numbered: a name that is not known in the document yet
gets the number of the names before it, and so does a name that is given again.  The node for a number is
the last one that has it.
-/

/-- A node of a document. -/
inductive Node where
  | scalar (tag : Option String) (plain : Bool) (text : String)
  | sequence (tag : Option String) (items : List Node)
  | mapping (tag : Option String) (entries : List (Node × Node))
  | anchored (anchor : Nat) (node : Node)
  | reference (anchor : Nat)

namespace Node

def omitted : Node :=
  scalar none true ""

mutual

/-- The number of marks that the nodes need: one for a scalar or an alias, two around a collection. -/
def weight : Node → Nat
  | scalar _ _ _ => 1
  | reference _ => 1
  | anchored _ node => weight node
  | sequence _ items => 2 + weightOfItems items
  | mapping _ entries => 2 + weightOfEntries entries

def weightOfItems : List Node → Nat
  | [] => 0
  | item :: rest => weight item + weightOfItems rest

def weightOfEntries : List (Node × Node) → Nat
  | [] => 0
  | (key, value) :: rest => weight key + weight value + weightOfEntries rest

end

mutual

/-- The anchored nodes with their numbers, in the order in which they start. -/
def anchors : Node → List (Nat × Node)
  | scalar _ _ _ => []
  | reference _ => []
  | anchored anchor node => (anchor, node) :: anchors node
  | sequence _ items => anchorsOfItems items
  | mapping _ entries => anchorsOfEntries entries

def anchorsOfItems : List Node → List (Nat × Node)
  | [] => []
  | item :: rest => anchors item ++ anchorsOfItems rest

def anchorsOfEntries : List (Node × Node) → List (Nat × Node)
  | [] => []
  | (key, value) :: rest => anchors key ++ anchors value ++ anchorsOfEntries rest

end

end Node

/-! ## Composition -/

/-- The state of a composition: the tokens to come, what the document says about tag handles, and the
anchors by name. -/
structure Composition where
  tokens : List Token
  handles : List (String × String)
  anchors : List (String × Nat)

/-- A step of a composition; it can fail. -/
abbrev Compose := StateT Composition Option

namespace Compose

def peek : Compose Token := do
  match (← get).tokens with
  | token :: _ => return token
  | [] => failure

def advance : Compose Unit :=
  modify fun s => { s with tokens := s.tokens.tail }

/-- Leave the next token behind if it is the given one. -/
def accept (token : Token) : Compose Bool := do
  if (← peek) == token then
    advance
    return true
  else return false

def expect (token : Token) : Compose Unit := do
  if !(← accept token) then failure

def declare (name : String) : Compose Nat := do
  let s ← get
  let number := s.anchors.length
  let others := s.anchors.filter fun anchor => anchor.1 != name
  set { s with anchors := (name, number) :: others }
  return number

def resolveTag (handle suffix : String) : Compose String := do
  if handle.isEmpty then return suffix
  else
    match (← get).handles.lookup handle with
    | some expansion => return expansion ++ suffix
    | none => failure

/-- The anchor that the next token gives, if it does. -/
def anchor? : Compose (Option String) := do
  match ← peek with
  | .anchor name => do
      advance
      return some name
  | _ => return none

/-- The tag that the next token gives, if it does. -/
def tag? : Compose (Option (String × String)) := do
  match ← peek with
  | .tag handle suffix => do
      advance
      return some (handle, suffix)
  | _ => return none

/-- Whether a token in a block mapping means that a key or a value is omitted. -/
def endsBlockPart : Token → Bool
  | .key => true
  | .value => true
  | .blockEnd => true
  | _ => false

/-- Whether a token in a flow mapping means that a key is omitted. -/
def endsFlowKey : Token → Bool
  | .value => true
  | .flowEntry => true
  | .flowMappingEnd => true
  | _ => false

/-- Whether a token in a flow mapping means that a value is omitted. -/
def endsFlowValue : Token → Bool
  | .flowEntry => true
  | .flowMappingEnd => true
  | _ => false

/-- Whether a token in a flow sequence means that the key of a single pair is omitted. -/
def endsPairKey : Token → Bool
  | .value => true
  | .flowEntry => true
  | .flowSequenceEnd => true
  | _ => false

/-- Whether a token in a flow sequence means that the value of a single pair is omitted. -/
def endsPairValue : Token → Bool
  | .flowEntry => true
  | .flowSequenceEnd => true
  | _ => false

mutual

/-- A node.  `block` allows block collections, `indentless` a sequence that is not indented. -/
def node (block indentless : Bool) : (fuel : Nat) → Compose Node
  | 0 => failure
  | fuel + 1 => do
      if let .reference name := ← peek then
        advance
        match (← get).anchors.lookup name with
        | some anchor => return .reference anchor
        | none => failure
      else
        let early ← anchor?
        let given ← tag?
        let name ← if early.isSome then pure early else if given.isSome then anchor? else pure none
        let tag ← given.mapM fun parts => resolveTag parts.1 parts.2
        let number ← name.mapM declare
        let finish (node : Node) : Node :=
          match number with
          | some number => .anchored number node
          | none => node
        match ← peek with
        | .scalar plain text => do
            advance
            return finish (.scalar (tag.filter fun tag => tag != "!") plain text)
        | .flowSequenceStart => do
            advance
            return finish (.sequence tag (← flowItems true fuel))
        | .flowMappingStart => do
            advance
            return finish (.mapping tag (← flowEntries true fuel))
        | .blockSequenceStart => do
            if !block then failure
            advance
            return finish (.sequence tag (← blockItems fuel))
        | .blockMappingStart => do
            if !block then failure
            advance
            return finish (.mapping tag (← blockEntries fuel))
        | .blockEntry => do
            if indentless then return finish (.sequence tag (← bareItems fuel))
            else if name.isSome || tag.isSome then return finish (.scalar tag true "")
            else failure
        | _ => do
            if name.isSome || tag.isSome then return finish (.scalar tag true "") else failure

/-- A node, unless the next token means that it is omitted. -/
def nodeUnless (omits : Token → Bool) (block indentless : Bool) : (fuel : Nat) → Compose Node
  | 0 => failure
  | fuel + 1 => do
      if omits (← peek) then return .omitted else node block indentless fuel

def blockItems : (fuel : Nat) → Compose (List Node)
  | 0 => failure
  | fuel + 1 => do
      if ← accept .blockEntry then
        let item ← nodeUnless (fun token => token == .blockEntry || token == .blockEnd) true false fuel
        return item :: (← blockItems fuel)
      else
        expect .blockEnd
        return []

def bareItems : (fuel : Nat) → Compose (List Node)
  | 0 => failure
  | fuel + 1 => do
      if ← accept .blockEntry then
        let item ←
          nodeUnless (fun token => token == .blockEntry || endsBlockPart token) true false fuel
        return item :: (← bareItems fuel)
      else return []

def blockEntries : (fuel : Nat) → Compose (List (Node × Node))
  | 0 => failure
  | fuel + 1 => do
      if ← accept .key then
        let key ← nodeUnless endsBlockPart true true fuel
        let value ← blockValue fuel
        return (key, value) :: (← blockEntries fuel)
      else
        expect .blockEnd
        return []

/-- The value that belongs to a key of a block mapping. -/
def blockValue : (fuel : Nat) → Compose Node
  | 0 => failure
  | fuel + 1 => do
      if ← accept .value then nodeUnless endsBlockPart true true fuel else return .omitted

/-- The items of a flow sequence; a key among them makes an item that is a mapping of one entry. -/
def flowItems (first : Bool) : (fuel : Nat) → Compose (List Node)
  | 0 => failure
  | fuel + 1 => do
      if ← accept .flowSequenceEnd then return []
      else
        if !first then expect .flowEntry
        if ← accept .key then
          let item ← pair fuel
          return item :: (← flowItems false fuel)
        else if ← accept .flowSequenceEnd then return []
        else
          let item ← node false false fuel
          return item :: (← flowItems false fuel)

/-- A mapping of one entry in a flow sequence, after the mark of its key.  A token that stands for an
omitted key is passed over. -/
def pair : (fuel : Nat) → Compose Node
  | 0 => failure
  | fuel + 1 => do
      let key ←
        if endsPairKey (← peek) then do
          advance
          pure Node.omitted
        else node false false fuel
      let value ←
        if ← accept .value then nodeUnless endsPairValue false false fuel else pure Node.omitted
      return .mapping none [(key, value)]

def flowEntries (first : Bool) : (fuel : Nat) → Compose (List (Node × Node))
  | 0 => failure
  | fuel + 1 => do
      if ← accept .flowMappingEnd then return []
      else
        if !first then expect .flowEntry
        if ← accept .key then
          let key ← nodeUnless endsFlowKey false false fuel
          let value ←
            if ← accept .value then nodeUnless endsFlowValue false false fuel else pure Node.omitted
          return (key, value) :: (← flowEntries false fuel)
        else if ← accept .flowMappingEnd then return []
        else
          let key ← node false false fuel
          return (key, Node.omitted) :: (← flowEntries false fuel)

end

/-- The directives in front of a document: the tag handles, and whether a version was given. -/
def directives : (fuel : Nat) → (handles : List (String × String)) → (version : Bool) →
    Compose (List (String × String))
  | 0, _, _ => failure
  | fuel + 1, handles, version => do
      match ← peek with
      | .version major minor => do
          if version || major != 1 || (minor != 1 && minor != 2) then failure
          advance
          directives fuel handles true
      | .tagHandle handle expansion => do
          if (handles.lookup handle).isSome then failure
          advance
          directives fuel (handles ++ [(handle, expansion)]) version
      | _ => return handles

/-- The tag handles that every document has unless it says otherwise. -/
def standardHandles : List (String × String) :=
  [("!", "!"), ("!!", "tag:yaml.org,2002:")]

def endsContent : Token → Bool
  | .version _ _ => true
  | .tagHandle _ _ => true
  | .documentStart => true
  | .documentEnd => true
  | .streamEnd => true
  | _ => false

def skipEnds : (fuel : Nat) → Compose Unit
  | 0 => return ()
  | fuel + 1 => do
      if ← accept .documentEnd then skipEnds fuel

/-- The next document, unless the stream is at its end.  Only the first may do without the mark in front
of it. -/
def document (first : Bool) (fuel : Nat) : Compose (Option Node) := do
  if !first then skipEnds fuel
  match ← peek with
  | .streamEnd => return none
  | token =>
      let explicit := !first || (endsContent token && token != .documentEnd)
      let handles ← if explicit then directives fuel [] false else pure []
      modify fun s => { s with handles := handles ++ standardHandles, anchors := [] }
      let root ←
        if explicit then do
          expect .documentStart
          nodeUnless endsContent true false fuel
        else node true false fuel
      let _ ← accept .documentEnd
      return some root

def documents (fuel : Nat) : (count : Nat) → (first : Bool) → Compose (List Node)
  | 0, _ => failure
  | count + 1, first => do
      match ← document first fuel with
      | none => return []
      | some root => return root :: (← documents fuel count false)

end Compose

/-- The documents of a text; none if it is malformed. -/
def documents? (text : List Char) : Option (List Node) := do
  let tokens ← tokens? text
  let fuel := 3 * tokens.length + 3
  let (roots, _) ← (Compose.documents fuel (tokens.length + 1) true).run ⟨tokens, [], []⟩
  return roots

end Yaml
end Fleet
