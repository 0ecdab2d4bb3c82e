/-!
# Quoted identifiers

An identifier stands between double quotes, and a double quote in it is written twice. So every
name can be an identifier, whatever characters it holds, and it is read back unchanged.
-/

namespace JoinPaths.Sql

/-- A character as it stands in an identifier. -/
def identifierChar (c : Char) : List Char :=
  if c = '"' then ['"', '"'] else [c]

/-- A name as an identifier. -/
def identifier (name : String) : String :=
  String.ofList ('"' :: name.toList.flatMap identifierChar ++ ['"'])

/-- A table with its schema. -/
structure TableRef where
  schema : String
  table : String
deriving DecidableEq, Repr

/-- The text that names a table with its schema. -/
def TableRef.text (t : TableRef) : String :=
  identifier t.schema ++ "." ++ identifier t.table

/-- A column of a table with its schema. -/
structure ColumnRef where
  owner : TableRef
  column : String
deriving DecidableEq, Repr

/-- The text that names a column with its table and schema. -/
def ColumnRef.text (c : ColumnRef) : String :=
  c.owner.text ++ "." ++ identifier c.column

/-- The text that names a column with its table, which is one of those of the statement. -/
def tableColumn (table column : String) : String :=
  identifier table ++ "." ++ identifier column

end JoinPaths.Sql
