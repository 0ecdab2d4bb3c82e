import JoinPaths.Json.Number
import JoinPaths.Text.Quoted

/-!
# Values that are not what was expected

A well-formed JSON value may still not be the value that a reader needs. A `Mismatch` says in what
way, and `Mismatch.message` puts it into words. What was found is described by a `Shape`: a simple
value is quoted, of a list or an object only the kind is named.
-/

namespace JoinPaths.Json

/-- What is told about a value that was found. -/
inductive Shape where
  | null
  | bool (b : Bool)
  | integer (n : Int)
  | double (x : Float)
  | string (s : String)
  | sequence
  | map

/-- The shape of a value. -/
def shape : Json → Shape
  | .null => .null
  | .bool b => .bool b
  | .integer n => .integer n
  | .double x => .double x
  | .string s => .string s
  | .array _ => .sequence
  | .object _ => .map

/-- A shape in words. -/
def Shape.describe : Shape → String
  | null => "null"
  | bool b => "boolean `" ++ (if b then "true" else "false") ++ "`"
  | integer n => "integer `" ++ String.ofList (integerText n) ++ "`"
  | double x => "floating point `" ++ String.ofList (doubleText x) ++ "`"
  | string s => "string " ++ Text.quoted s
  | sequence => "sequence"
  | map => "map"

/-- Why a value is not what was expected. -/
inductive Mismatch where
  | invalidType (found : Shape) (expected : String)
  /-- A value of the right type that is not possible here. -/
  | invalidValue (found : Shape) (expected : String)
  | invalidLength (length : Nat) (expected : String)
  /-- A name that is not among the possible ones. -/
  | unknownVariant (name : String) (known : List String)
  | missingField (name : String)
  | duplicateField (name : String)

/-- A name between backquotes. -/
def backquoted (name : String) : String :=
  "`" ++ name ++ "`"

/-- A mismatch in words. -/
def Mismatch.message : Mismatch → String
  | invalidType found expected =>
    "invalid type: " ++ found.describe ++ ", expected " ++ expected
  | invalidValue found expected =>
    "invalid value: " ++ found.describe ++ ", expected " ++ expected
  | invalidLength length expected =>
    "invalid length " ++ Nat.repr length ++ ", expected " ++ expected
  | unknownVariant name known =>
    "unknown variant " ++ backquoted name ++ ", expected " ++
      " or ".intercalate (known.map backquoted)
  | missingField name => "missing field " ++ backquoted name
  | duplicateField name => "duplicate field " ++ backquoted name

/-- The text that a value must be. -/
def asString : Json → Except Mismatch String
  | .string s => .ok s
  | v => .error (.invalidType v.shape "a string")

end JoinPaths.Json
