import AspiManager.Yaml.Lexer
import AspiManager.Yaml.Node

/-!
# From tokens to a document

A text holds one document or none. Where a node is expected and the token of the next entry or the
end of the collection stands instead, the node is empty.
-/

namespace AspiManager

namespace Yaml

/-- What is left to read, the handles of tags, and the anchors so far. -/
structure ParseState where
  tokens : List Token
  /-- What the handles of tags stand for. -/
  handles : List (String × String)
  /-- The numbers of anchored nodes by name, the latest first. -/
  names : List (String × Nat) := []
  anchored : Array Node := #[]

/-- A step of reading a document, which may fail. -/
abbrev Parse := StateT ParseState Option

namespace Parse

/-- The next token, none at the end. -/
def peek : Parse (Option Token) := return (← get).tokens.head?

def advance : Parse Unit := modify fun s => { s with tokens := s.tokens.tail }

/-- Whether the next token is of a kind. -/
def next (p : Token → Bool) : Parse Bool := return (← peek).any p

/-- Passes a token that has to be there. -/
def expect (t : Token) : Parse Unit := do
  if ← next (· == t) then advance else failure

/-- Passes a token if it is there; says whether it was. -/
def accept (t : Token) : Parse Bool := do
  let there ← next (· == t)
  if there then advance
  return there

/-- The whole tag of a handle and a suffix. -/
def resolveTag (handle suffix : String) : Parse String := do
  if handle.isEmpty then return suffix
  match (← get).handles.lookup handle with
  | some stem => return stem ++ suffix
  | none => failure

/-- An anchor, if one is next. -/
def anchor : Parse (Option String) := do
  match ← peek with
  | some (.anchor name) => advance; return some name
  | _ => return none

/-- A tag, if one is next. -/
def tag : Parse (Option String) := do
  match ← peek with
  | some (.tag handle suffix) => advance; return some (← resolveTag handle suffix)
  | _ => return none

/-- The anchor and the tag of a node, in either order. -/
def properties : Parse (Option String × Option String) := do
  match ← anchor with
  | some name => return (some name, ← tag)
  | none =>
    let tag ← tag
    return (← anchor, tag)

/-- The node that an alias stands for. -/
def aliased (name : String) : Parse Node := do
  match (← get).names.lookup name with
  | some i => return .aliasOf i
  | none => failure

/-- Gives an anchored node its number before its content is read. -/
def reserve (name : Option String) : Parse (Option Nat) := do
  match name with
  | none => return none
  | some name =>
    let i := (← get).anchored.size
    modify fun s =>
      { s with names := (name, i) :: s.names, anchored := s.anchored.push .empty }
    return some i

/-- Keeps an anchored node under its number. -/
def keep (i : Option Nat) (n : Node) : Parse Node := do
  if let some i := i then
    modify fun s => { s with anchored := s.anchored.setIfInBounds i n }
  return n

/-- A kind of tokens before which a node of a block mapping is empty. -/
def endsBlockNode (t : Token) : Bool := t == .key || t == .value || t == .blockEnd

/-- A kind of tokens before which an entry of a flow sequence is empty. -/
def endsItem (t : Token) : Bool := t == .comma || t == .sequenceClose

/-- A kind of tokens before which a value of a flow mapping is empty. -/
def endsEntry (t : Token) : Bool := t == .comma || t == .mappingClose

mutual

/-- A node. In a block mapping, a sequence of dashes may stand at the column of its key. The number
bounds the depth of the reading. -/
def node : Nat → (block dashes : Bool) → Parse Node
  | 0, _, _ => failure
  | n + 1, block, dashes => do
    match ← peek with
    | some (.aliasOf name) => advance; aliased name
    | _ =>
      let (name, tag) ← properties
      let number ← reserve name
      let bare := name.isNone && tag.isNone
      keep number (← content n block dashes bare tag)

/-- The content of a node. Without anchor and tag it may not be missing. -/
def content : Nat → (block dashes bare : Bool) → Option String → Parse Node
  | 0, _, _, _, _ => failure
  | n + 1, block, dashes, bare, tag => do
    match ← peek with
    | some .dash =>
      if dashes then return .sequence tag (← dashItems n)
      else if bare then failure else return .scalar tag .plain ""
    | some (.scalar style text) => advance; return .scalar tag style text
    | some .sequenceOpen => advance; return .sequence tag (← flowItems n true)
    | some .mappingOpen => advance; return .mapping tag (← flowPairs n true)
    | some .blockSequence =>
      if block then advance; return .sequence tag (← blockItems n)
      else if bare then failure else return .scalar tag .plain ""
    | some .blockMapping =>
      if block then advance; return .mapping tag (← blockPairs n)
      else if bare then failure else return .scalar tag .plain ""
    | _ => if bare then failure else return .scalar tag .plain ""

/-- A node, empty before a token of a kind. -/
def nodeUnless : Nat → (Token → Bool) → (block dashes : Bool) → Parse Node
  | 0, _, _, _ => failure
  | n + 1, stops, block, dashes => do
    if ← next stops then return .empty else node n block dashes

/-- The entries of a block sequence. -/
def blockItems : Nat → Parse (List Node)
  | 0 => failure
  | n + 1 => do
    if ← accept .blockEnd then return []
    expect .dash
    let item ← nodeUnless n (fun t => t == .dash || t == .blockEnd) true false
    return item :: (← blockItems n)

/-- The entries of a sequence of dashes at the column of a key. -/
def dashItems : Nat → Parse (List Node)
  | 0 => failure
  | n + 1 => do
    if ← accept .dash then
      let item ← nodeUnless n (fun t => t == .dash || endsBlockNode t) true false
      return item :: (← dashItems n)
    else return []

/-- The entries of a block mapping. -/
def blockPairs : Nat → Parse (List (Node × Node))
  | 0 => failure
  | n + 1 => do
    if ← accept .blockEnd then return []
    expect .key
    let k ← nodeUnless n endsBlockNode true true
    let v ← if ← accept .value then nodeUnless n endsBlockNode true true else pure .empty
    return (k, v) :: (← blockPairs n)

/-- The entries of a flow sequence. -/
def flowItems : Nat → (first : Bool) → Parse (List Node)
  | 0, _ => failure
  | n + 1, first => do
    if ← accept .sequenceClose then return []
    if !first then
      expect .comma
      if ← accept .sequenceClose then return []
    let item ← if ← accept .key then singlePair n else node n false false
    return item :: (← flowItems n false)

/-- A mapping of one pair within a flow sequence. Where the key is empty, the token after it is
passed with it. -/
def singlePair : Nat → Parse Node
  | 0 => failure
  | n + 1 => do
    let noKey ← next fun t => t == .value || endsItem t
    let k ← if noKey then do advance; pure Node.empty else node n false false
    let v ← if ← accept .value then nodeUnless n endsItem false false else pure .empty
    return .mapping none [(k, v)]

/-- The entries of a flow mapping. -/
def flowPairs : Nat → (first : Bool) → Parse (List (Node × Node))
  | 0, _ => failure
  | n + 1, first => do
    if ← accept .mappingClose then return []
    if !first then
      expect .comma
      if ← accept .mappingClose then return []
    let pair ← flowPair n
    return pair :: (← flowPairs n false)

/-- An entry of a flow mapping; only one with a key mark can have a value. -/
def flowPair : Nat → Parse (Node × Node)
  | 0 => failure
  | n + 1 => do
    if ← accept .key then
      let k ← nodeUnless n (fun t => t == .value || endsEntry t) false false
      let v ← if ← accept .value then nodeUnless n endsEntry false false else pure .empty
      return (k, v)
    else return (← node n false false, .empty)

end

/-- A token that belongs to the head of a document. -/
def isDirective : Token → Bool
  | .version .. | .tagHandle .. => true
  | _ => false

/-- A token before which a document is empty. -/
def endsDocument (t : Token) : Bool := isDirective t || t == .documentStart || t == .documentEnd

/-- The directives at the head of a document: one version at most, and no handle twice. -/
def directives : Nat → (version : Bool) → (own : List (String × String)) → Parse Unit
  | 0, _, _ => failure
  | n + 1, version, own => do
    match ← peek with
    | some (.version major minor) =>
      if version || major != 1 || (minor != 1 && minor != 2) then failure
      advance
      directives n true own
    | some (.tagHandle handle stem) =>
      if (own.lookup handle).isSome then failure
      advance
      directives n version ((handle, stem) :: own)
    | _ => modify fun s => { s with handles := own ++ s.handles }

/-- The root of the only document. -/
def root (n : Nat) : Parse Node := do
  if !(← next fun t => isDirective t || t == .documentStart) then node n true false
  else
    directives n false []
    expect .documentStart
    if (← peek).isNone || (← next endsDocument) then return .empty
    node n true false

end Parse

/-- The handles of tags that every document knows. -/
def commonHandles : List (String × String) := [("!", "!"), ("!!", "tag:yaml.org,2002:")]

/-- The document of a text, none if it holds no document; fails if the text is not well formed or
holds more than one document. -/
def parse? (text : String) : Option (Option Document) := do
  let tokens ← tokens? text
  if tokens.isEmpty then return none
  let (root, s) ← (Parse.root (4 * tokens.length + 8)).run { tokens, handles := commonHandles }
  if !(s.tokens.all (· == .documentEnd)) then failure
  return some ⟨root, s.anchored⟩

end Yaml

end AspiManager
