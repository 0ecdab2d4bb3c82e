import JoinPaths.Settings.Basic
import JoinPaths.Yaml.Node

/-!
# Settings from YAML

Settings are given as a mapping, in which every field may be left out but none may be given twice,
and others are ignored. A text without document, and an empty document, give the defaults. Truth
values and numbers must be plain scalars, and numbers may be written in several bases.
-/

namespace JoinPaths.Settings

open Yaml (Node)

/-- The value of a digit in a base up to sixteen. -/
def digitIn? (base : Nat) (c : Char) : Option Nat :=
  (Text.hexValue? c).filter (· < base)

/-- The natural number of 64 bits that digits in a base spell. -/
def naturalIn? (base : Nat) (digits : List Char) : Option Nat :=
  if digits.isEmpty then none
  else
    ((digits.mapM (digitIn? base)).map fun ds => ds.foldl (fun n d => n * base + d) 0).filter
      (· < UInt64.size)

/-- The natural number of 64 bits that a plain scalar spells. A decimal number does not begin with a
zero. -/
def plainNatural? (text : List Char) : Option Nat :=
  let unsigned := if text.head? = some '+' then text.drop 1 else text
  match unsigned with
  | '0' :: 'x' :: digits => naturalIn? 16 digits
  | '0' :: 'o' :: digits => naturalIn? 8 digits
  | '0' :: 'b' :: digits => naturalIn? 2 digits
  | '0' :: _ :: _ => none
  | digits => naturalIn? 10 digits

/-- The truth value that a plain scalar spells. -/
def plainBoolean? (text : String) : Option Bool :=
  if text ∈ ["true", "True", "TRUE"] then some true
  else if text ∈ ["false", "False", "FALSE"] then some false
  else none

/-- The fields that were given, each once. -/
structure Given where
  schemaName : Option String
  directed : Option Bool
  pathLimit : Option Nat

/-- Takes the field with a name, unless it was given before; other names are ignored. -/
def Given.take (g : Given) (name : String) (v : Node) : Option Given :=
  match name, v with
  | "schema_name", .scalar _ text =>
    if g.schemaName.isSome then none else some { g with schemaName := some text }
  | "directed", .scalar true text =>
    if g.directed.isSome then none
    else (plainBoolean? text).map fun b => { g with directed := some b }
  | "path_limit", .scalar true text =>
    if g.pathLimit.isSome then none
    else (plainNatural? text.toList).map fun n => { g with pathLimit := some n }
  | "schema_name", _ => none
  | "directed", _ => none
  | "path_limit", _ => none
  | _, _ => some g

/-- Takes fields one after the other; every key must be a scalar. -/
def Given.takeAll (g : Given) : List (Node × Node) → Option Given
  | [] => some g
  | (.scalar _ name, v) :: members =>
    match g.take name v with
    | some g => g.takeAll members
    | none => none
  | _ => none

/-- The settings of a document, unchecked. -/
def decodeNode : Node → Option Settings
  | .mapping members =>
    (Given.takeAll ⟨none, none, none⟩ members).map fun g =>
      { schemaName := g.schemaName.getD standard.schemaName
        directed := g.directed.getD standard.directed
        pathLimit := g.pathLimit.getD standard.pathLimit }
  | .scalar true "" => some standard
  | _ => none

/-- The settings of a YAML text, unchecked. -/
def decodeYaml (content : String) : Option Settings :=
  match Yaml.parse content with
  | none => none
  | some none => some standard
  | some (some node) => decodeNode node

/-- The settings in a file, which may be missing or hold no text. -/
def ofYamlFile (file : Option ByteArray) : Except SettingsError Settings :=
  match file with
  | none => .error (.unreadableFile .missing)
  | some bytes =>
    match String.fromUTF8? bytes with
    | none => .error (.unreadableFile .notText)
    | some content =>
      match decodeYaml content with
      | none => .error (.unreadableYaml content)
      | some s => s.check

end JoinPaths.Settings
