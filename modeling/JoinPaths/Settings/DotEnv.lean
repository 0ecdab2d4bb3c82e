import JoinPaths.Settings.Basic
import JoinPaths.Text.Alphanumeric
import JoinPaths.Text.Blank

/-!
# Files of environment variables

A file gives variables their values, one `name=value` to a line. A line may be blank or a comment,
and `export` may stand before the name. A value may be quoted; between double quotes and outside
quotes a backslash keeps the next character from being special, and `$name` stands for the value of
another variable. A quoted value may go on over several lines.

A file sets only variables that have no value yet, so that the environment counts before the file
and the first line for a name before the others. The first line that cannot be read ends the file;
what the lines before it have set stays. No variable holds the character U+0000: where a value with
it would be set, there is no environment to go on with.
-/

namespace JoinPaths

/-- The values of environment variables, as far as they are texts. -/
def Environment : Type :=
  String → Option String

namespace Environment

/-- Gives a variable a value unless it has one. -/
def setDefault (env : Environment) (name value : String) : Environment := fun other =>
  if other = name ∧ (env name).isNone then some value else env other

end Environment

namespace DotEnv

/-! ## Lines -/

/-- What quotes are open behind a character of a line. -/
inductive Quoting where
  /-- None. -/
  | plain
  /-- None, and the character is white space. -/
  | blank
  /-- None, and the next character is escaped. -/
  | escape
  /-- Single quotes. -/
  | single
  /-- Single quotes, and the next character is escaped. -/
  | singleEscape
  /-- Double quotes. -/
  | double
  /-- Double quotes, and the next character is escaped. -/
  | doubleEscape
deriving DecidableEq, Repr

/-- What quotes are open behind one character more. -/
def Quoting.next (q : Quoting) (c : Char) : Quoting :=
  match q with
  | blank =>
    if c = '\\' then escape else if c = '"' then double else if c = '\'' then single else plain
  | plain =>
    if Text.isBlank c ∧ c ≠ '\n' ∧ c ≠ '\r' then blank
    else if c = '\\' then escape else if c = '"' then double else if c = '\'' then single else plain
  | escape => plain
  | double => if c = '\\' then doubleEscape else if c = '"' then plain else double
  | doubleEscape => double
  | single => if c = '\\' then singleEscape else if c = '\'' then plain else single
  | singleEscape => single

/-- Goes through a line up to its end, or up to a comment: a `#` behind white space. Gives the
quotes that are open at the end, or for a comment none, and the text before it. -/
def scanLine (q : Quoting) (before : List Char) : List Char → Option Quoting × List Char
  | [] => (some q, before.reverse)
  | c :: rest =>
    if q = .blank ∧ c = '#' then (none, before.reverse) else scanLine (q.next c) (c :: before) rest

/-- A line up to its line end, which belongs to it, and the lines behind it. -/
def splitLines (text : List Char) : List (List Char) :=
  match text with
  | [] => []
  | c :: rest =>
    if c = '\n' then [c] :: splitLines rest
    else
      match splitLines rest with
      | [] => [[c]]
      | line :: lines => (c :: line) :: lines

/-- A text without the line end at its end. -/
def chomp (text : List Char) : List Char :=
  match text.reverse with
  | '\n' :: '\r' :: rest => rest.reverse
  | '\n' :: rest => rest.reverse
  | _ => text

/-- Puts lines together as long as a quote is open at the end; `before` is what was put together so
far. The last text is `none` if a quote stays open. -/
def joinLines (q : Quoting) (before : List Char) : List (List Char) → List (Option (List Char))
  | [] => if q = .plain then [] else [none]
  | line :: lines =>
    if ((before ++ line).dropWhile Text.isBlank).head? = some '#' then
      some [] :: joinLines .plain [] lines
    else
      match scanLine q [] line with
      | (none, text) => some (before ++ text) :: joinLines .plain [] lines
      | (some q, _) =>
        if q = .plain then some (chomp (before ++ line)) :: joinLines .plain [] lines
        else joinLines q (before ++ line) lines

/-! ## Values -/

/-- Where in a value a character stands. -/
inductive Mode where
  | plain
  | single
  | double
  /-- Behind a backslash, between double quotes or outside quotes. -/
  | escape (inDouble : Bool)
  /-- In a name behind a dollar sign, between double quotes or outside quotes. -/
  | reference (inDouble : Bool) (name : List Char)
  /-- In a name in braces behind a dollar sign, between double quotes or outside quotes. -/
  | braced (inDouble : Bool) (name : List Char)
  /-- Behind the value, where only a comment may follow. -/
  | ended

/-- The mode outside or inside double quotes. -/
def Mode.around (inDouble : Bool) : Mode :=
  if inDouble then .double else .plain

/-- The characters of the variable with a name, latest first. -/
def valueOf (env : Environment) (name : List Char) : List Char :=
  match env (String.ofList name.reverse) with
  | some value => value.toList.reverse
  | none => []

/-- Reads a value; `out` holds its characters so far, latest first. -/
def readValue (env : Environment) (mode : Mode) (out : List Char) :
    List Char → Option (List Char)
  | [] =>
    match mode with
    | .plain | .ended | .escape false => some out.reverse
    | .reference false name => some (valueOf env name ++ out).reverse
    | _ => none
  | c :: rest =>
    match mode with
    | .ended =>
      if c = ' ' ∨ c = '\t' then readValue env .ended out rest
      else if c = '#' then some out.reverse
      else none
    | .escape inDouble =>
      if c ∈ ['\\', '\'', '"', '$', ' '] then readValue env (.around inDouble) (c :: out) rest
      else if c = 'n' then readValue env (.around inDouble) ('\n' :: out) rest
      else none
    | .single =>
      if c = '\'' then readValue env .plain out rest else readValue env .single (c :: out) rest
    | .reference inDouble name =>
      if Text.isAlphanumeric c then readValue env (.reference inDouble (c :: name)) out rest
      else if c = '\x7b' ∧ name.isEmpty then readValue env (.braced inDouble []) out rest
      else if c = '$' then readValue env (.reference inDouble []) (valueOf env name ++ out) rest
      else readValue env (.around inDouble) (c :: (valueOf env name ++ out)) rest
    | .braced inDouble name =>
      if c = '\x7d' then readValue env (.around inDouble) (valueOf env name ++ out) rest
      else readValue env (.braced inDouble (c :: name)) out rest
    | .double =>
      if c = '$' then readValue env (.reference true []) out rest
      else if c = '"' then readValue env .plain out rest
      else if c = '\\' then readValue env (.escape true) out rest
      else readValue env .double (c :: out) rest
    | .plain =>
      if c = '$' then readValue env (.reference false []) out rest
      else if c = '\'' then readValue env .single out rest
      else if c = '"' then readValue env .double out rest
      else if c = '\\' then readValue env (.escape false) out rest
      else if c = ' ' ∨ c = '\t' then readValue env .ended out rest
      else readValue env .plain (c :: out) rest

/-! ## Assignments -/

def isNameStart (c : Char) : Bool :=
  c.isAlpha || c == '_'

def isNamePart (c : Char) : Bool :=
  c.isAlphanum || c == '_' || c == '.'

/-- A name at the front of a text, and the text behind it and the white space that follows. -/
def readName (text : List Char) : Option (String × List Char) :=
  if text.head?.any isNameStart then
    some (String.ofList (text.takeWhile isNamePart),
      (text.dropWhile isNamePart).dropWhile Text.isBlank)
  else none

/-- The name that is assigned to, and the text behind the equals sign. -/
def readTarget (text : List Char) : Option (String × List Char) :=
  match readName text with
  | none => none
  | some (name, '=' :: rest) => some (name, rest)
  | some (name, rest) =>
    if name = "export" then
      match readName rest with
      | some (name, '=' :: rest) => some (name, rest)
      | _ => none
    else none

/-- Reads a line: `some none` if it assigns nothing, `none` if it cannot be read. -/
def readAssignment (env : Environment) (line : List Char) : Option (Option (String × String)) :=
  let text := Text.trim line
  if text.isEmpty ∨ text.head? = some '#' then some none
  else
    match readTarget text with
    | none => none
    | some (name, rest) =>
      let value := rest.dropWhile Text.isBlank
      if value.isEmpty ∨ value.head? = some '#' then some (some (name, ""))
      else (readValue env .plain [] value).map fun cs => some (name, String.ofList cs)

/-- Whether a variable can hold a value. -/
def isHoldable (value : String) : Bool :=
  !value.toList.contains '\x00'

/-- The environment after the lines of a file, up to the first that cannot be read. -/
def loadLines (env : Environment) : List (Option (List Char)) → Except SettingsError Environment
  | [] => .ok env
  | none :: _ => .ok env
  | some line :: lines =>
    match readAssignment env line with
    | none => .ok env
    | some none => loadLines env lines
    | some (some (name, value)) =>
      if (env name).isNone ∧ !isHoldable value then .error (.unholdable name value)
      else loadLines (env.setDefault name value) lines

/-- A text without the byte order mark at its front. -/
def withoutMark (text : List Char) : List Char :=
  if text.head? = some '\ufeff' then text.drop 1 else text

/-- The environment after a file, which may be missing. -/
def load (file : Option String) (env : Environment) : Except SettingsError Environment :=
  match file with
  | none => .ok env
  | some content => loadLines env (joinLines .plain [] (splitLines (withoutMark content.toList)))

end DotEnv

end JoinPaths
