import JoinPaths.Catalog.Row
import JoinPaths.Json.Mismatch

/-!
# Rows from JSON values

A row is given as an object that holds its kind and its fields in any order, or as a list of the
kind and the fields in their order. An object is gone through in two passes: the first collects its
members in a `Draft` and finds the kind, which may come last; the second picks the fields of that
kind and ignores all others. So a wrong kind is noticed before a wrong field, wherever they stand.
-/

namespace JoinPaths.Catalog

open Json (Mismatch Shape)

/-- The kind that a value names. -/
def Kind.ofShape : Shape → Except Mismatch Kind
  | .string name =>
    if name = Kind.primary.name then .ok .primary
    else if name = Kind.foreign.name then .ok .foreign
    else .error (.unknownVariant name [Kind.primary.name, Kind.foreign.name])
  | shape => .error (.invalidType shape "variant identifier")

/-- The row of a kind whose fields are found by name. -/
def Kind.row (kind : Kind) (field : String → Except Mismatch String) : Except Mismatch Row :=
  match kind with
  | .primary =>
    (field "table_name").bind fun table =>
    (field "column_name").map fun column => .primary table column
  | .foreign =>
    (field "table_name").bind fun table =>
    (field "column_name").bind fun column =>
    (field "foreign_table_name").bind fun referencedTable =>
    (field "foreign_column_name").map fun referencedColumn =>
      .foreign table column referencedTable referencedColumn

/-! ## Fields by name -/

/-- Picks the fields of a kind, in the order in which they are given; `picked` holds those picked
before. A field that is given again is refused before its value is looked at. -/
def pickFields (fields : List String) (picked : List (String × String)) :
    List (String × Json) → Except Mismatch (List (String × String))
  | [] => .ok picked
  | (key, v) :: members =>
    if key ∈ fields then
      if (picked.lookup key).isSome then .error (.duplicateField key)
      else
        match v.asString with
        | .error e => .error e
        | .ok s => pickFields fields ((key, s) :: picked) members
    else pickFields fields picked members

/-- The row of a kind with these members. -/
def Kind.ofMembers (kind : Kind) (members : List (String × Json)) : Except Mismatch Row :=
  (pickFields kind.fields [] members).bind fun picked =>
    kind.row fun name =>
      match picked.lookup name with
      | some s => .ok s
      | none => .error (.missingField name)

/-! ## Fields by position -/

/-- What a list of fields that is too short was expected to be. -/
def Kind.description : Kind → String
  | .primary => "struct variant CatalogRow::PrimaryKey with 2 elements"
  | .foreign => "struct variant CatalogRow::ForeignKey with 4 elements"

/-- The texts at the front of a list, as many as asked for. -/
def takeStrings (kind : Kind) (taken : Nat) : Nat → List Json → Except Mismatch (List String)
  | 0, _ => .ok []
  | _ + 1, [] => .error (.invalidLength taken kind.description)
  | count + 1, v :: items =>
    match v.asString with
    | .error e => .error e
    | .ok s => (takeStrings kind (taken + 1) count items).map (s :: ·)

/-- The row of a kind with these fields, in their order. -/
def Kind.ofItems (kind : Kind) (items : List Json) : Except Mismatch Row :=
  let count := kind.fields.length
  match takeStrings kind 0 count items with
  | .error e => .error e
  | .ok texts =>
    if count < items.length then
      .error (.invalidLength items.length (Nat.repr count ++ " elements in sequence"))
    else
      kind.row fun name =>
        match (kind.fields.zip texts).lookup name with
        | some s => .ok s
        | none => .error (.missingField name)

/-! ## Drafts -/

/-- The members of an object that may become a row. -/
structure Draft where
  /-- The kind, once it has been found. -/
  kind : Option Kind
  /-- The other members, in their order. -/
  members : List (String × Json)

/-- The draft without members. -/
def Draft.empty : Draft := ⟨none, []⟩

/-- Sets the kind of a draft that has none yet. -/
def Draft.setKind (d : Draft) (tag : Shape) : Except Mismatch Draft :=
  match d.kind with
  | some _ => .error (.duplicateField kindField)
  | none => (Kind.ofShape tag).map fun kind => { d with kind := some kind }

/-- Adds a member that is not the kind. -/
def Draft.addMember (d : Draft) (key : String) (v : Json) : Draft :=
  { d with members := d.members ++ [(key, v)] }

/-- Adds a member. -/
def Draft.add (d : Draft) (key : String) (v : Json) : Except Mismatch Draft :=
  if key = kindField then d.setKind v.shape else .ok (d.addMember key v)

/-- Adds members in their order. -/
def Draft.addAll (d : Draft) : List (String × Json) → Except Mismatch Draft
  | [] => .ok d
  | (key, v) :: members =>
    match d.add key v with
    | .error e => .error e
    | .ok d => d.addAll members

/-- The row that a draft with all its members stands for. -/
def Draft.row (d : Draft) : Except Mismatch Row :=
  match d.kind with
  | none => .error (.missingField kindField)
  | some kind => kind.ofMembers d.members

/-- What a row is expected to be. -/
def rowDescription : String := "internally tagged enum CatalogRow"

/-- The row that a JSON value stands for. -/
def Row.ofJson : Json → Except Mismatch Row
  | .object members => (Draft.empty.addAll members).bind Draft.row
  | .array [] => .error (.missingField kindField)
  | .array (tag :: items) => (Kind.ofShape tag.shape).bind fun kind => kind.ofItems items
  | v => .error (.invalidType v.shape rowDescription)

/-- The rows that JSON values stand for; the first value that is no row decides. -/
def Row.ofJsonAll : List Json → Except Mismatch (List Row)
  | [] => .ok []
  | v :: items =>
    match Row.ofJson v with
    | .error e => .error e
    | .ok row => (Row.ofJsonAll items).map (row :: ·)

end JoinPaths.Catalog
