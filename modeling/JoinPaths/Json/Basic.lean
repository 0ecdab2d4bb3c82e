/-!
# JSON values

Integers are kept apart from doubles, as texts distinguish them. The members of an object stand in
the order in which they were given; `Json.put` keeps that order when a key is given again.
-/

namespace JoinPaths

/-- A JSON value. -/
inductive Json where
  | null
  | bool (b : Bool)
  /-- A number written without fraction and exponent that fits in 64 bits. -/
  | integer (n : Int)
  /-- Any other number. -/
  | double (x : Float)
  | string (s : String)
  | array (items : List Json)
  /-- Values under keys. -/
  | object (members : List (String × Json))
deriving Inhabited

namespace Json

/-- Gives a key a value: a new key goes to the end, a key that is there keeps its place. -/
def put (members : List (String × Json)) (key : String) (value : Json) : List (String × Json) :=
  match members with
  | [] => [(key, value)]
  | (k, v) :: rest => if k = key then (k, value) :: rest else (k, v) :: put rest key value

/-- The value under a key. -/
def lookup? (members : List (String × Json)) (key : String) : Option Json :=
  (members.find? fun m => m.1 == key).map Prod.snd

theorem lookup?_cons (m : String × Json) (members : List (String × Json)) (key : String) :
    lookup? (m :: members) key = if m.1 = key then some m.2 else lookup? members key := by
  by_cases h : m.1 = key <;> simp [lookup?, h]

end Json

end JoinPaths
