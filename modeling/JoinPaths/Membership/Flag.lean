import JoinPaths.Json.Writer
import JoinPaths.Text.Blank

/-!
# The membership flag of an answer

A membership statement asks for one row with one column. Databases give truth values back in
different ways: as such, as numbers, or as texts such as `t` and `yes`. No row at all means no
membership. Anything else is malformed.
-/

namespace JoinPaths

def flagColumn : String := "belongs"

/-- Why a row does not tell whether there is membership. -/
inductive MalformedFlag where
  | notAnObject (row : Json)
  | missingColumn
  /-- The column holds a value that is neither true nor false. -/
  | notBooleanLike (value : Json)

def MalformedFlag.message : MalformedFlag → String
  | notAnObject row => "expected a row object, got `" ++ row.compact ++ "`"
  | missingColumn => "row has no `" ++ flagColumn ++ "` column"
  | notBooleanLike value =>
    "`" ++ flagColumn ++ "` is not boolean-like: `" ++ value.compact ++ "`"

def trueWords : List String := ["t", "true", "1", "y", "yes"]

def falseWords : List String := ["f", "false", "0", "n", "no"]

/-- The truth value that a text means: white space around it and the case of its ASCII letters do
not matter. -/
def wordTruth? (s : String) : Option Bool :=
  let word := String.ofList ((Text.trim s.toList).map Char.toLower)
  if word ∈ trueWords then some true
  else if word ∈ falseWords then some false
  else none

/-- The truth value that a JSON value means. -/
def Json.truth? : Json → Option Bool
  | .bool b => some b
  | .integer n => some (n != 0)
  | .double x => some (x != 0.0)
  | .string s => wordTruth? s
  | _ => none

/-- The flag in the rows of an answer; only the first row counts. -/
def readFlag : List Json → Except MalformedFlag Bool
  | [] => .ok false
  | .object members :: _ =>
    match Json.lookup? members flagColumn with
    | none => .error .missingColumn
    | some value =>
      match value.truth? with
      | some b => .ok b
      | none => .error (.notBooleanLike value)
  | row :: _ => .error (.notAnObject row)

end JoinPaths
