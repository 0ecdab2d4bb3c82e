import JoinPaths.Yaml.Scalar

/-!
# Tokens of YAML texts

Indentation and keys are made explicit: a block collection begins where a line is indented more than
the collection around it and ends where one is indented less, and a node turns out to be a key only
when the colon behind it is reached. Therefore every node that could be a key reserves a slot among
the tokens, which stays empty unless the colon comes, on the same line and within 1024 characters.
-/

namespace JoinPaths.Yaml

/-- A token. -/
inductive Token where
  /-- A line that begins with a percent sign. -/
  | directive
  | documentStart
  | documentEnd
  /-- A sequence begins in which every line begins with a dash. -/
  | blockSequenceStart
  /-- A mapping begins that is shown by indentation. -/
  | blockMappingStart
  /-- A collection that is shown by indentation ends. -/
  | blockEnd
  /-- An opening square bracket. -/
  | flowSequenceStart
  /-- A closing square bracket. -/
  | flowSequenceEnd
  /-- An opening brace. -/
  | flowMappingStart
  /-- A closing brace. -/
  | flowMappingEnd
  /-- The dash in front of an entry. -/
  | blockEntry
  /-- The comma between entries. -/
  | flowEntry
  | key
  | value
  /-- A node that was named before. -/
  | alias (name : String)
  /-- The name of the node that follows. -/
  | anchor (name : String)
  /-- The type of the node that follows. -/
  | tag
  /-- A scalar, and whether it is plain. -/
  | scalar (plain : Bool) (text : String)
deriving DecidableEq, Repr

/-- A node that may turn out to be a key. -/
structure PossibleKey where
  /-- The slot reserved for it. -/
  slot : Nat
  /-- Whether nothing but a key may stand there. -/
  required : Bool
  /-- Where it begins. -/
  mark : Mark

/-- The state of the scanner. -/
structure Lexer where
  /-- The place that is reached. -/
  mark : Mark
  /-- The text from there on. -/
  text : List Char
  /-- The column of the innermost block collection and one more; zero outside of all. -/
  indent : Nat
  /-- The same for the collections around it, innermost first. -/
  outer : List Nat
  /-- For every open flow collection, innermost first, and for the block around them, the node that
  may turn out to be a key. -/
  keys : List (Option PossibleKey)
  /-- Whether a key may begin here. -/
  keyAllowed : Bool
  /-- The tokens, with empty slots among them. -/
  slots : Array (List Token)

namespace Lexer

def start (text : List Char) : Lexer :=
  ⟨⟨0, 0, 0⟩, text, 0, [], [none], true, #[]⟩

/-- Whether a flow collection is open. -/
def inFlow (l : Lexer) : Bool :=
  1 < l.keys.length

def push (l : Lexer) (t : Token) : Lexer :=
  { l with slots := l.slots.push [t] }

/-- Goes on by some characters. -/
def advance (l : Lexer) (count : Nat) : Lexer :=
  { l with mark := l.mark.after (l.text.take count), text := l.text.drop count }

/-- Goes on behind a piece that was read. -/
def behind (l : Lexer) (p : Piece) : Lexer :=
  { l with mark := p.mark, text := p.rest }

/-! ## Keys -/

/-- Gives up the node that could have been a key. -/
def forgetKey (l : Lexer) : Option Lexer :=
  match l.keys with
  | some k :: keys => if k.required then none else some { l with keys := none :: keys }
  | _ => some l

/-- Reserves a slot for the node that begins here, if it may be a key. -/
def saveKey (l : Lexer) : Option Lexer :=
  if l.keyAllowed then
    l.forgetKey.map fun l =>
      { l with
        slots := l.slots.push []
        keys := some ⟨l.slots.size, !l.inFlow && l.indent == l.mark.column + 1, l.mark⟩ ::
          l.keys.drop 1 }
  else some l

/-- Gives up the nodes behind which no colon can come any more. -/
def dropStaleKeys (l : Lexer) : Option Lexer :=
  let isStale (k : PossibleKey) : Bool :=
    k.mark.line < l.mark.line || k.mark.index + 1024 < l.mark.index
  if l.keys.any fun k => k.any fun k => isStale k && k.required then none
  else some { l with keys := l.keys.map fun k => k.filter fun k => !isStale k }

/-! ## Indentation -/

/-- Ends block collections that are indented more than `column`; `outer` are those around. -/
def unrollFrom (column indent : Nat) (slots : Array (List Token)) :
    List Nat → Nat × List Nat × Array (List Token)
  | [] => (indent, [], slots)
  | around :: outer =>
    if column < indent then unrollFrom column around (slots.push [.blockEnd]) outer
    else (indent, around :: outer, slots)

/-- Ends the block collections that are indented more than to before `column`. -/
def unroll (l : Lexer) (column : Nat) : Lexer :=
  if l.inFlow then l
  else
    let (indent, outer, slots) := unrollFrom column l.indent l.slots l.outer
    { l with indent, outer, slots }

/-- Whether a block collection begins at a column. -/
def rolls (l : Lexer) (column : Nat) : Bool :=
  !l.inFlow && decide (l.indent < column + 1)

/-- Begins a block collection at a column. -/
def indentTo (l : Lexer) (column : Nat) : Lexer :=
  { l with indent := column + 1, outer := l.indent :: l.outer }

/-- Begins a block collection here, if the indentation tells so. -/
def roll (l : Lexer) (t : Token) : Lexer :=
  if l.rolls l.mark.column then (l.indentTo l.mark.column).push t else l

/-! ## Gaps -/

/-- Skips blanks, line ends and comments. A tab is a blank only where no key may begin, and a new
line allows one outside flow collections. -/
def skipGap (flow allowed comment : Bool) (m : Mark) : List Char → Bool × Mark × List Char
  | [] => (allowed, m, [])
  | c :: rest =>
    if isBreak c then skipGap flow (allowed || !flow) false (m.next c) rest
    else if comment ∨ c = ' ' ∨ (c = '\t' ∧ (flow ∨ !allowed)) then
      skipGap flow allowed comment (m.next c) rest
    else if c = '#' then skipGap flow allowed true (m.next c) rest
    else (allowed, m, c :: rest)

/-- Goes on to the next token. -/
def toToken (l : Lexer) : Option Lexer :=
  let (keyAllowed, mark, text) := skipGap l.inFlow l.keyAllowed false l.mark l.text
  let here : Lexer := { l with keyAllowed, mark, text }
  here.dropStaleKeys.map fun l => l.unroll (l.mark.column + 1)

/-! ## One token -/

/-- A mark of a document, which is three characters long. -/
def documentMark (l : Lexer) (t : Token) : Option Lexer :=
  (l.unroll 0).forgetKey.map fun l => ({ l with keyAllowed := false }.push t).advance 3

/-- Whether a line is a known directive. -/
def isDirective (line : List Char) : Bool :=
  let words := (String.ofList line).splitOn " "
  match words.filter (· ≠ "") with
  | ["%YAML", version] => version == "1.1" || version == "1.2"
  | "%TAG" :: _ => true
  | _ => false

/-- A directive, which ends with its line. -/
def directive (l : Lexer) : Option Lexer :=
  let line := l.text.takeWhile fun c => !isBreak c
  if isDirective (line.takeWhile (· ≠ '#')) then
    (l.unroll 0).forgetKey.map fun l =>
      ({ l with keyAllowed := false }.push .directive).advance line.length
  else none

def openFlow (l : Lexer) (t : Token) : Option Lexer :=
  l.saveKey.map fun l => ({ l with keys := none :: l.keys, keyAllowed := true }.push t).advance 1

def closeFlow (l : Lexer) (t : Token) : Option Lexer :=
  l.forgetKey.map fun l =>
    let keys := if l.inFlow then l.keys.drop 1 else l.keys
    ({ l with keys, keyAllowed := false }.push t).advance 1

def flowEntry (l : Lexer) : Option Lexer :=
  l.forgetKey.map fun l => ({ l with keyAllowed := true }.push .flowEntry).advance 1

def blockEntry (l : Lexer) : Option Lexer :=
  if !l.inFlow && !l.keyAllowed then none
  else
    (l.roll .blockSequenceStart).forgetKey.map fun l =>
      ({ l with keyAllowed := true }.push .blockEntry).advance 1

def explicitKey (l : Lexer) : Option Lexer :=
  if !l.inFlow && !l.keyAllowed then none
  else
    (l.roll .blockMappingStart).forgetKey.map fun l =>
      ({ l with keyAllowed := !l.inFlow }.push .key).advance 1

/-- The colon behind a key that began where a slot was reserved. -/
def valueOf (l : Lexer) (k : PossibleKey) : Lexer :=
  let fill := fun tokens => { l with
    slots := l.slots.setIfInBounds k.slot tokens
    keys := none :: l.keys.drop 1
    keyAllowed := false }
  if l.rolls k.mark.column then (fill [.blockMappingStart, .key]).indentTo k.mark.column
  else fill [.key]

/-- The colon in front of a value. -/
def colon (l : Lexer) : Option Lexer :=
  match l.keys with
  | some k :: _ => some (((l.valueOf k).push .value).advance 1)
  | _ =>
    if !l.inFlow && !l.keyAllowed then none
    else
      let l := l.roll .blockMappingStart
      some (({ l with keyAllowed := !l.inFlow }.push .value).advance 1)

/-- Whether a name of a node can hold a character. -/
def isAnchorChar (c : Char) : Bool :=
  c.isAlphanum || c == '_' || c == '-'

/-- A name of a node, behind its indicator. -/
def anchorName (l : Lexer) (make : String → Token) : Option Lexer :=
  let name := (l.text.drop 1).takeWhile isAnchorChar
  let rest := (l.text.drop 1).dropWhile isAnchorChar
  if name.isEmpty ∨ !(atGap rest || rest.head?.any (· ∈ "?:,]\x7d%@\x60".toList)) then none
  else
    l.saveKey.map fun l =>
      ({ l with keyAllowed := false }.push (make (String.ofList name))).advance (name.length + 1)

def tag (l : Lexer) : Option Lexer :=
  let length := (l.text.takeWhile fun c =>
    !isBlank c && !isBreak c && !(l.inFlow && isFlowIndicator c)).length
  l.saveKey.map fun l => ({ l with keyAllowed := false }.push .tag).advance length

def blockScalar (l : Lexer) (literal : Bool) : Option Lexer :=
  l.forgetKey.bind fun l =>
    (scanBlock literal l.indent (l.mark.after (l.text.take 1)) (l.text.drop 1)).map fun p =>
      ({ l with keyAllowed := true }.push (.scalar false (String.ofList p.value))).behind p

/-- A scalar in quotes or a plain one. -/
def flowScalar (l : Lexer) (plain : Bool) (scan : Lexer → Option Piece) : Option Lexer :=
  l.saveKey.bind fun l =>
    (scan l).map fun p =>
      ({ l with keyAllowed := p.broken }.push (.scalar plain (String.ofList p.value))).behind p

/-- Whether a plain scalar can begin with a character, in front of a text. -/
def beginsPlain (flow : Bool) (c : Char) (rest : List Char) : Bool :=
  !(isBlank c || c ∈ "-?:,[]\x7b\x7d#&*!|>'\"%@\x60".toList) ||
    (c == '-' && !rest.head?.any isBlank) ||
    (!flow && (c == '?' || c == ':') && !atGap rest)

/-- Reads the token that begins here with a character, in front of a text. -/
def token (l : Lexer) (c : Char) (rest : List Char) : Option Lexer :=
  let column0 := l.mark.column == 0
  let alone := l.inFlow || atGap rest
  if column0 && c == '%' then l.directive
  else if atDocumentMark l.mark l.text then
    l.documentMark (if c = '-' then .documentStart else .documentEnd)
  else if c = '[' then l.openFlow .flowSequenceStart
  else if c = '\x7b' then l.openFlow .flowMappingStart
  else if c = ']' then l.closeFlow .flowSequenceEnd
  else if c = '\x7d' then l.closeFlow .flowMappingEnd
  else if c = ',' then l.flowEntry
  else if c == '-' && atGap rest then l.blockEntry
  else if c == '?' && alone then l.explicitKey
  else if c == ':' && alone then l.colon
  else if c = '*' then l.anchorName .alias
  else if c = '&' then l.anchorName .anchor
  else if c = '!' then l.tag
  else if c == '|' && !l.inFlow then l.blockScalar true
  else if c == '>' && !l.inFlow then l.blockScalar false
  else if c = '\'' then
    l.flowScalar false fun l => scanSingle [] .none (l.mark.next c) (l.text.drop 1)
  else if c = '"' then
    l.flowScalar false fun l => scanDouble [] .none .no (l.mark.next c) (l.text.drop 1)
  else if beginsPlain l.inFlow c rest then
    l.flowScalar true fun l => scanPlain l.inFlow l.indent [] .none false l.mark l.text
  else none

/-- The tokens of what is left of the text. Every token takes part of the text. -/
def run (l : Lexer) : Option (List Token) :=
  match l.toToken with
  | none => none
  | some here =>
    match here.text with
    | [] => (here.unroll 0).forgetKey.map fun l => l.slots.toList.flatten
    | c :: rest =>
      match here.token c rest with
      | none => none
      | some next => if next.text.length < l.text.length then run next else none
termination_by l.text.length

end Lexer

/-- Whether a character may stand in a YAML text. -/
def isAllowed (c : Char) : Bool :=
  let n := c.toNat
  n == 0x09 || n == 0x0a || n == 0x0d || (0x20 ≤ n && n ≤ 0x7e) || n == 0x85 ||
    (0xa0 ≤ n && n ≤ 0xfffd) || 0x10000 ≤ n

/-- Brings the line ends `\r\n`, `\r` and U+0085 to `\n`. -/
def normalize : List Char → List Char
  | '\r' :: '\n' :: rest => '\n' :: normalize rest
  | c :: rest => (if c = '\r' ∨ c = '\u0085' then '\n' else c) :: normalize rest
  | [] => []

def tokens (s : String) : Option (List Token) :=
  let text := s.toList
  if text.all isAllowed then
    (Lexer.start (normalize (if text.head? = some '\ufeff' then text.drop 1 else text))).run
  else none

end JoinPaths.Yaml
