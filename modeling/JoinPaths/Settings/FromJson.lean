import JoinPaths.Json.Mismatch
import JoinPaths.Settings.Basic

/-!
# Settings from JSON

Settings are given as an object, in which every field may be left out and others are ignored, or as
a list of the fields in their order, which may end early.
-/

namespace JoinPaths.Settings

open Json (Mismatch)

/-- The truth value that a value must be. -/
def asBoolean : Json → Except Mismatch Bool
  | .bool b => .ok b
  | v => .error (.invalidType v.shape "a boolean")

/-- The natural number that a value must be. -/
def asNatural : Json → Except Mismatch Nat
  | .integer n =>
    if 0 ≤ n then .ok n.toNat else .error (.invalidValue (.integer n) "usize")
  | v => .error (.invalidType v.shape "usize")

/-- Sets the field with a name; other names are ignored. -/
def setField (s : Settings) (name : String) (v : Json) : Except Mismatch Settings :=
  if name = "schema_name" then v.asString.map fun x => { s with schemaName := x }
  else if name = "directed" then (asBoolean v).map fun x => { s with directed := x }
  else if name = "path_limit" then (asNatural v).map fun x => { s with pathLimit := x }
  else .ok s

/-- Sets fields in the order in which they are given. -/
def setFields (s : Settings) : List (String × Json) → Except Mismatch Settings
  | [] => .ok s
  | (name, v) :: members =>
    match s.setField name v with
    | .error e => .error e
    | .ok s => s.setFields members

def fieldNames : List String :=
  ["schema_name", "directed", "path_limit"]

/-- The settings that a JSON value stands for, unchecked. -/
def decodeJson : Json → Except Mismatch Settings
  | .object members => standard.setFields members
  | .array items =>
    (standard.setFields (fieldNames.zip items)).bind fun s =>
      if items.length ≤ fieldNames.length then .ok s
      else .error (.invalidLength items.length "fewer elements in array")
  | v => .error (.invalidType v.shape "struct GraphConfig")

end JoinPaths.Settings
