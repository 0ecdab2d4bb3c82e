import JoinPaths.Json.Number

/-!
# The compact text of a JSON value

The text has no blanks, and the members of an object stand in their order. In a string the quote,
the backslash and the characters below the space are escaped, the common ones with a letter and the
others by their code point; every other character stands for itself.
-/

namespace JoinPaths.Json

/-- A character as it stands in a JSON string. -/
def escapeChar (c : Char) : List Char :=
  match c with
  | '"' => ['\\', '"']
  | '\\' => ['\\', '\\']
  | '\x08' => ['\\', 'b']
  | '\x0c' => ['\\', 'f']
  | '\n' => ['\\', 'n']
  | '\r' => ['\\', 'r']
  | '\t' => ['\\', 't']
  | c =>
    if c.toNat < 0x20 then
      ['\\', 'u', '0', '0', Nat.digitChar (c.toNat / 16), Nat.digitChar (c.toNat % 16)]
    else [c]

/-- A string between quotes. -/
def stringText (s : String) : List Char :=
  '"' :: (s.toList.flatMap escapeChar ++ ['"'])

mutual

/-- The compact text of a value. -/
def text : Json → List Char
  | null => "null".toList
  | bool true => "true".toList
  | bool false => "false".toList
  | integer n => integerText n
  | double x => doubleText x
  | string s => stringText s
  | array items => '[' :: itemsText items ++ [']']
  | object members => '\x7b' :: membersText members ++ ['\x7d']

/-- The values of a list, separated by commas. -/
def itemsText : List Json → List Char
  | [] => []
  | v :: rest => text v ++ itemsRestText rest

/-- The values of a list after the first one, each after a comma. -/
def itemsRestText : List Json → List Char
  | [] => []
  | v :: rest => ',' :: text v ++ itemsRestText rest

/-- The members of an object, separated by commas. -/
def membersText : List (String × Json) → List Char
  | [] => []
  | (key, v) :: rest => stringText key ++ ':' :: text v ++ membersRestText rest

/-- The members of an object after the first one, each after a comma. -/
def membersRestText : List (String × Json) → List Char
  | [] => []
  | (key, v) :: rest => ',' :: stringText key ++ ':' :: text v ++ membersRestText rest

end

/-- The compact text of a value. -/
def compact (v : Json) : String :=
  String.ofList v.text

end JoinPaths.Json
