import JoinPaths.Yaml.Token

/-!
# Nodes of YAML documents

A document is a tree of scalars, sequences and mappings. It is read from the tokens of a text by
recursive descent; where a node is expected and none stands, there is an empty plain scalar. A name
for a node that stands before stands for the node itself. Every call of the reader takes a token or
is followed by one that does, and `fuel` bounds the calls accordingly.
-/

namespace JoinPaths.Yaml

/-- A node of a document. -/
inductive Node where
  /-- A scalar, and whether it is plain. -/
  | scalar (plain : Bool) (text : String)
  | sequence (items : List Node)
  /-- A mapping, in the order of the text. -/
  | mapping (members : List (Node × Node))
deriving Inhabited

/-- The node where none stands. -/
def Node.empty : Node := .scalar true ""

/-- What is left to read, and the nodes that have names, the latest first. -/
structure Reading where
  tokens : List Token
  named : List (String × Node)

/-- A reader of part of a document. -/
abbrev Reader := StateT Reading Option

namespace Reader

def peek : Reader (Option Token) := do
  return (← get).tokens.head?

def skip : Reader Unit :=
  modify fun r => { r with tokens := r.tokens.drop 1 }

/-- Whether one of some tokens comes next. -/
def at? (tokens : List Token) : Reader Bool := do
  return (← peek).any (· ∈ tokens)

/-- Skips a token, if it comes next. -/
def skip? (t : Token) : Reader Bool := do
  if ← at? [t] then
    skip
    return true
  else return false

/-- Gives a node a name. -/
def giveName (name : Option String) (node : Node) : Reader Unit :=
  match name with
  | some name => modify fun r => { r with named := (name, node) :: r.named }
  | none => pure ()

/-- Reads the name and the type in front of a node: the name, and whether there is any of them. -/
def properties : Reader (Option String × Bool) := do
  match ← peek with
  | some (.anchor name) =>
    skip
    let _ ← skip? .tag
    return (some name, true)
  | some .tag =>
    skip
    match ← peek with
    | some (.anchor name) =>
      skip
      return (some name, true)
    | _ => return (none, true)
  | _ => return (none, false)

mutual

/-- Reads a node. Outside flow collections it may be a block collection, and where `indentless` a
sequence that is not indented. -/
def node (fuel : Nat) (block indentless : Bool) : Reader Node :=
  match fuel with
  | 0 => failure
  | fuel + 1 => do
    match ← peek with
    | some (.alias name) =>
      skip
      match (← get).named.lookup name with
      | some node => return node
      | none => failure
    | _ =>
      let (name, hasProperties) ← properties
      giveName name (.sequence [])
      let node ← content fuel block indentless hasProperties
      giveName name node
      return node

/-- Reads a node behind its name and type. -/
def content (fuel : Nat) (block indentless hasProperties : Bool) : Reader Node :=
  match fuel with
  | 0 => failure
  | fuel + 1 => do
    match ← peek with
    | some (.scalar plain text) =>
      skip
      return .scalar plain text
    | some .flowSequenceStart =>
      skip
      return .sequence (← flowSequence fuel true)
    | some .flowMappingStart =>
      skip
      return .mapping (← flowMapping fuel true)
    | some .blockEntry =>
      if indentless then return .sequence (← indentlessSequence fuel)
      else if hasProperties then return .empty
      else failure
    | some .blockSequenceStart =>
      if block then
        skip
        return .sequence (← blockSequence fuel)
      else if hasProperties then return .empty
      else failure
    | some .blockMappingStart =>
      if block then
        skip
        return .mapping (← blockMapping fuel)
      else if hasProperties then return .empty
      else failure
    | _ => if hasProperties then return .empty else failure

/-- Reads a node unless one of some tokens comes next, before which it would be empty. -/
def nodeUnless (fuel : Nat) (block indentless : Bool) (ends : List Token) : Reader Node :=
  match fuel with
  | 0 => failure
  | fuel + 1 => do
    if ← at? ends then return .empty else node fuel block indentless

def blockSequence (fuel : Nat) : Reader (List Node) :=
  match fuel with
  | 0 => failure
  | fuel + 1 => do
    if ← skip? .blockEntry then
      let item ← nodeUnless fuel true false [.blockEntry, .blockEnd]
      return item :: (← blockSequence fuel)
    else if ← skip? .blockEnd then return []
    else failure

/-- Reads the entries of a sequence that is not indented. -/
def indentlessSequence (fuel : Nat) : Reader (List Node) :=
  match fuel with
  | 0 => failure
  | fuel + 1 => do
    if ← skip? .blockEntry then
      let item ← nodeUnless fuel true false [.blockEntry, .key, .value, .blockEnd]
      return item :: (← indentlessSequence fuel)
    else return []

def blockMapping (fuel : Nat) : Reader (List (Node × Node)) :=
  match fuel with
  | 0 => failure
  | fuel + 1 => do
    let ends : List Token := [.key, .value, .blockEnd]
    if ← skip? .blockEnd then return []
    else if ← skip? .key then
      let key ← nodeUnless fuel true true ends
      let value ← if ← skip? .value then nodeUnless fuel true true ends else pure .empty
      return (key, value) :: (← blockMapping fuel)
    else failure

def flowSequence (fuel : Nat) (first : Bool) : Reader (List Node) :=
  match fuel with
  | 0 => failure
  | fuel + 1 => do
    if ← skip? .flowSequenceEnd then return []
    let separated ← if first then pure true else skip? .flowEntry
    if !separated then failure
    else if ← skip? .flowSequenceEnd then return []
    else if ← skip? .key then
      let key ← nodeUnless fuel false false [.value, .flowEntry, .flowSequenceEnd]
      let value ←
        if ← skip? .value then nodeUnless fuel false false [.flowEntry, .flowSequenceEnd]
        else pure .empty
      return .mapping [(key, value)] :: (← flowSequence fuel false)
    else
      let item ← node fuel false false
      return item :: (← flowSequence fuel false)

def flowMapping (fuel : Nat) (first : Bool) : Reader (List (Node × Node)) :=
  match fuel with
  | 0 => failure
  | fuel + 1 => do
    if ← skip? .flowMappingEnd then return []
    let separated ← if first then pure true else skip? .flowEntry
    if !separated then failure
    else if ← skip? .flowMappingEnd then return []
    else
      let isKey ← skip? .key
      let ends : List Token := [.value, .flowEntry, .flowMappingEnd]
      let key ← if isKey then nodeUnless fuel false false ends else node fuel false false
      let value ←
        if isKey then
          if ← skip? .value then nodeUnless fuel false false [.flowEntry, .flowMappingEnd]
          else pure .empty
        else pure .empty
      return (key, value) :: (← flowMapping fuel false)

end

def skipDirectives (tokens : List Token) : List Token :=
  tokens.dropWhile (· = .directive)

def documentContent (fuel : Nat) : Reader Node := do
  if (← peek).isNone ∨ (← at? [.directive, .documentStart, .documentEnd]) then return .empty
  else node fuel true false

/-- Reads the only document, if there is one. -/
def document (fuel : Nat) : Reader (Option Node) := do
  match ← peek with
  | none => return none
  | some t =>
    if t = .directive ∨ t = .documentStart then
      modify fun r => { r with tokens := skipDirectives r.tokens }
      if ← skip? .documentStart then
        return some (← documentContent fuel)
      else failure
    else return some (← node fuel true false)

end Reader

/-- The only document of a text: `none` if the text is not YAML or has several documents,
`some none` if it has no document. -/
def parse (s : String) : Option (Option Node) :=
  match tokens s with
  | none => none
  | some tokens =>
    match (Reader.document (4 * tokens.length + 4)).run ⟨tokens, []⟩ with
    | none => none
    | some (node, left) =>
      if (left.tokens.dropWhile (· = .documentEnd)).isEmpty then some node else none

end JoinPaths.Yaml
