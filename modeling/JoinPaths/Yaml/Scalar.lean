import JoinPaths.Text.Digit

/-!
# Scalars in YAML texts

A scalar is written plain, between quotes, or as a block of lines. Line ends are `\n`, U+2028 and
U+2029; the others are brought to `\n` beforehand. Inside a plain or quoted scalar a single line end
counts as a space, and of several all but the first count.

Every scanner goes along the text from a `Mark`, the place of its first character, and gives what it
has read as a `Piece`, or nothing if the text is no YAML text.
-/

namespace JoinPaths.Yaml

/-- A place in a text. -/
structure Mark where
  /-- The number of characters before it. -/
  index : Nat
  /-- The number of line ends before it. -/
  line : Nat
  /-- The number of characters before it in its line. -/
  column : Nat
deriving Repr

def isBreak (c : Char) : Bool :=
  c == '\n' || c == '\u2028' || c == '\u2029'

/-- Whether a character is a space or a tab. -/
def isBlank (c : Char) : Bool :=
  c == ' ' || c == '\t'

/-- Whether a blank, a line end or the end of the text comes next. -/
def atGap (text : List Char) : Bool :=
  match text with
  | [] => true
  | c :: _ => isBlank c || isBreak c

def Mark.next (m : Mark) (c : Char) : Mark :=
  if isBreak c then ⟨m.index + 1, m.line + 1, 0⟩ else ⟨m.index + 1, m.line, m.column + 1⟩

def Mark.after (m : Mark) (text : List Char) : Mark :=
  text.foldl Mark.next m

/-- Part of a text that has been read. -/
structure Piece where
  value : List Char
  /-- The place behind it. -/
  mark : Mark
  /-- The text behind it. -/
  rest : List Char
  /-- Whether it ends with a line end. -/
  broken : Bool

/-- Whether a document begins or ends at the front of a line. -/
def atDocumentMark (m : Mark) (text : List Char) : Bool :=
  m.column == 0 &&
    match text with
    | '-' :: '-' :: '-' :: rest => atGap rest
    | '.' :: '.' :: '.' :: rest => atGap rest
    | _ => false

/-! ## Gaps -/

/-- What stands between two words of a scalar; characters are held latest first. -/
inductive Gap where
  /-- Blanks on one line, or nothing. -/
  | blanks (cs : List Char)
  /-- A line end, or none if it was escaped, and the line ends behind it. -/
  | breaks (first : Option Char) (others : List Char)

/-- The gap without characters. -/
def Gap.none : Gap := .blanks []

def Gap.isBroken : Gap → Bool
  | blanks _ => false
  | breaks _ _ => true

/-- A gap with a blank more; blanks at the front of a line do not count. -/
def Gap.addBlank (g : Gap) (c : Char) : Gap :=
  match g with
  | blanks cs => blanks (c :: cs)
  | breaks first others => breaks first others

/-- A gap with a line end more; blanks before it do not count. -/
def Gap.addBreak (g : Gap) (c : Char) : Gap :=
  match g with
  | blanks _ => breaks (some c) []
  | breaks first others => breaks first (c :: others)

/-- Puts a gap behind the characters of a scalar, latest first. -/
def Gap.fill (g : Gap) (out : List Char) : List Char :=
  match g with
  | blanks cs => cs ++ out
  | breaks (some '\n') [] => ' ' :: out
  | breaks (some '\n') others => others ++ out
  | breaks (some c) others => others ++ c :: out
  | breaks Option.none others => others ++ out

/-! ## Plain scalars -/

/-- Whether a character ends a plain scalar in a flow collection. -/
def isFlowIndicator (c : Char) : Bool :=
  c == ',' || c == '[' || c == ']' || c == '\x7b' || c == '\x7d'

/-- Whether a plain scalar ends before a text, inside a word. -/
def endsPlain (flow : Bool) (c : Char) (rest : List Char) : Bool :=
  (c == ':' && atGap rest) || (flow && isFlowIndicator c)

/-- Reads on in a plain scalar. `indent` is the column at which its further lines must stand, `head`
tells that no word has begun since the last gap. -/
def scanPlain (flow : Bool) (indent : Nat) (out : List Char) (gap : Gap) (head : Bool) (m : Mark) :
    List Char → Option Piece
  | [] => some ⟨out.reverse, m, [], gap.isBroken⟩
  | c :: rest =>
    if isBlank c then
      if gap.isBroken ∧ m.column < indent ∧ c = '\t' then none
      else scanPlain flow indent out (gap.addBlank c) true (m.next c) rest
    else if isBreak c then scanPlain flow indent out (gap.addBreak c) true (m.next c) rest
    else if head ∧ ((!flow && decide (m.column < indent)) || atDocumentMark m (c :: rest) ||
        c == '#') then
      some ⟨out.reverse, m, c :: rest, gap.isBroken⟩
    else if flow ∧ c = ':' ∧ rest.head?.any (fun d => isFlowIndicator d || d == '?') then none
    else if endsPlain flow c rest then some ⟨out.reverse, m, c :: rest, gap.isBroken⟩
    else scanPlain flow indent (c :: gap.fill out) .none false (m.next c) rest

/-! ## Quoted scalars -/

/-- Reads on between single quotes; a quote is written twice. -/
def scanSingle (out : List Char) (gap : Gap) (m : Mark) : List Char → Option Piece
  | [] => none
  | '\'' :: '\'' :: rest =>
    scanSingle ('\'' :: gap.fill out) .none ((m.next '\'').next '\'') rest
  | '\'' :: rest => some ⟨(gap.fill out).reverse, m.next '\'', rest, false⟩
  | c :: rest =>
    if atDocumentMark m (c :: rest) then none
    else if isBlank c then scanSingle out (gap.addBlank c) (m.next c) rest
    else if isBreak c then scanSingle out (gap.addBreak c) (m.next c) rest
    else scanSingle (c :: gap.fill out) .none (m.next c) rest

/-- The character that a letter behind a backslash stands for. -/
def escaped? (c : Char) : Option Char :=
  match c with
  | '0' => some '\x00'
  | 'a' => some '\x07'
  | 'b' => some '\x08'
  | 't' => some '\t'
  | '\t' => some '\t'
  | 'n' => some '\n'
  | 'v' => some '\x0b'
  | 'f' => some '\x0c'
  | 'r' => some '\r'
  | 'e' => some '\x1b'
  | ' ' => some ' '
  | '"' => some '"'
  | '/' => some '/'
  | '\\' => some '\\'
  | 'N' => some '\u0085'
  | '_' => some '\u00a0'
  | 'L' => some '\u2028'
  | 'P' => some '\u2029'
  | _ => none

/-- The number of hexadecimal digits behind a letter behind a backslash. -/
def codeLength? (c : Char) : Option Nat :=
  if c = 'x' then some 2 else if c = 'u' then some 4 else if c = 'U' then some 8 else none

/-- Where between double quotes a character stands. -/
inductive Escape where
  /-- Behind no backslash. -/
  | no
  /-- Directly behind a backslash. -/
  | begun
  /-- In a code, with digits still to come; the value of the digits before. -/
  | code (digits value : Nat)

/-- Reads on between double quotes. -/
def scanDouble (out : List Char) (gap : Gap) (e : Escape) (m : Mark) : List Char → Option Piece
  | [] => none
  | c :: rest =>
    match e with
    | .no =>
      if atDocumentMark m (c :: rest) then none
      else if isBlank c then scanDouble out (gap.addBlank c) .no (m.next c) rest
      else if isBreak c then scanDouble out (gap.addBreak c) .no (m.next c) rest
      else if c = '"' then some ⟨(gap.fill out).reverse, m.next c, rest, false⟩
      else if c = '\\' then scanDouble (gap.fill out) .none .begun (m.next c) rest
      else scanDouble (c :: gap.fill out) .none .no (m.next c) rest
    | .begun =>
      if isBreak c then scanDouble out (.breaks Option.none []) .no (m.next c) rest
      else
        match escaped? c, codeLength? c with
        | some d, _ => scanDouble (d :: out) .none .no (m.next c) rest
        | Option.none, some digits => scanDouble out .none (.code digits 0) (m.next c) rest
        | Option.none, Option.none => none
    | .code digits value =>
      match Text.hexValue? c with
      | Option.none => none
      | some d =>
        let value := value * 16 + d
        if 1 < digits then scanDouble out .none (.code (digits - 1) value) (m.next c) rest
        else if value.isValidChar then
          scanDouble (Char.ofNat value :: out) .none .no (m.next c) rest
        else none

/-! ## Block scalars -/

/-- The header of a block scalar. -/
structure BlockStyle where
  /-- Whether line ends are kept as they are. -/
  literal : Bool
  /-- Whether the last line end is dropped. -/
  strip : Bool
  /-- Whether all line ends at the end are kept. -/
  keep : Bool
  /-- By how much the lines are indented, if it is told. -/
  increment : Option Nat

/-- A line without its line end, and the line end. -/
structure Line where
  body : List Char
  /-- The line end; the last line may have none. -/
  ending : List Char

def linesOf : List Char → List Line
  | [] => []
  | c :: rest =>
    if isBreak c then ⟨[], [c]⟩ :: linesOf rest
    else
      match linesOf rest with
      | [] => [⟨[c], []⟩]
      | line :: lines => { line with body := c :: line.body } :: lines

def textOf (lines : List Line) : List Char :=
  lines.flatMap fun l => l.body ++ l.ending

/-- The number of spaces at the front of a line. -/
def Line.spaces (l : Line) : Nat :=
  (l.body.takeWhile (· == ' ')).length

/-- Whether there are only spaces before the line end. -/
def Line.isEmpty (l : Line) : Bool :=
  l.spaces == l.body.length && !l.ending.isEmpty

/-- The indentation of a block: that of its most indented line up to the first line that is not
empty. -/
def blockIndent : List Line → Nat
  | [] => 0
  | line :: lines => if line.isEmpty then max line.spaces (blockIndent lines) else line.spaces

/-- Reads the lines of a block. `pending` is the last line end, `empty` the line ends of the empty
lines behind it, latest first, and `afterBlank` tells that the last line began with a blank. Gives
the characters, latest first, the two kinds of line ends at the end, and the lines behind the
block. -/
def blockLines (literal : Bool) (indent : Nat) (out pending empty : List Char)
    (afterBlank : Bool) :
    List Line → Option (List Char × List Char × List Char × List Line)
  | [] => some (out, pending, empty, [])
  | line :: lines =>
    let spaces := min indent line.spaces
    let body := line.body.drop spaces
    if body.isEmpty then
      if line.ending.isEmpty then some (out, pending, empty, [line])
      else blockLines literal indent out pending (line.ending ++ empty) afterBlank lines
    else if spaces < indent then
      if body.head? = some '\t' then none else some (out, pending, empty, line :: lines)
    else
      let startsBlank := body.head?.any isBlank
      let joined :=
        if !literal ∧ pending = ['\n'] ∧ !afterBlank ∧ !startsBlank then
          if empty.isEmpty then ' ' :: out else empty ++ out
        else empty ++ pending ++ out
      blockLines literal indent (body.reverse ++ joined) line.ending [] startsBlank lines

/-- Reads the header of a block scalar, behind its indicator. -/
def blockStyle (literal : Bool) (text : List Char) : Option (BlockStyle × List Char) :=
  let style (sign : Option Char) (increment : Option Nat) : BlockStyle :=
    ⟨literal, sign == some '-', sign == some '+', increment⟩
  let sign (text : List Char) : Option Char × List Char :=
    match text with
    | '-' :: rest => (some '-', rest)
    | '+' :: rest => (some '+', rest)
    | _ => (Option.none, text)
  let increment (text : List Char) : Option (Option Nat × List Char) :=
    match text with
    | c :: rest =>
      if c = '0' then none
      else if c.isDigit then some (some (Text.digitValue c), rest)
      else some (Option.none, text)
    | [] => some (Option.none, text)
  match sign text with
  | (some s, rest) => (increment rest).map fun (n, rest) => (style (some s) n, rest)
  | (Option.none, _) =>
    (increment text).map fun (n, rest) =>
      match n with
      | some _ => (style (sign rest).1 n, (sign rest).2)
      | Option.none => (style Option.none n, rest)

/-- Reads a block scalar, behind its indicator. `parent` is the indentation around it, as the column
of the collection and one more, so that zero means none. -/
def scanBlock (literal : Bool) (parent : Nat) (m : Mark) (text : List Char) : Option Piece :=
  match blockStyle literal text with
  | none => none
  | some (style, rest) =>
    let behindBlanks := rest.dropWhile isBlank
    let behindComment :=
      if behindBlanks.head? = some '#' then behindBlanks.dropWhile fun c => !isBreak c
      else behindBlanks
    if behindComment.head?.any fun c => !isBreak c then none
    else
      let lines := linesOf (behindComment.drop 1)
      let indent :=
        match style.increment with
        | some n => (parent - 1) + n
        | none => max (blockIndent lines) (max parent 1)
      if style.increment.isNone ∧
          (lines.dropWhile Line.isEmpty).head?.any
            fun l => (l.body.drop l.spaces).head? == some '\t' && decide (l.spaces < indent) then
        none
      else
        (blockLines literal indent [] [] [] false lines).map fun (out, pending, empty, left) =>
          let closed := if style.strip then out else pending ++ out
          let all := if style.keep then empty ++ closed else closed
          let rest := textOf left
          ⟨all.reverse, m.after (text.take (text.length - rest.length)), rest, true⟩

end JoinPaths.Yaml
