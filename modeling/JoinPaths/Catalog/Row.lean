import JoinPaths.Json.Writer

/-!
# Catalog rows

A catalog lists the constraints of the base tables of a schema, one row for the primary key of a
table and one for every foreign key. As a JSON value a row is an object whose member `key_type`
tells the two apart.
-/

namespace JoinPaths.Catalog

/-- The two kinds of constraints. -/
inductive Kind where
  | primary
  | foreign
deriving DecidableEq, Repr

/-- One constraint. -/
inductive Row where
  /-- The primary key of a table is this column. -/
  | primary (table column : String)
  /-- A column of a table refers to a column of another table, or of the same one. -/
  | foreign (table column referencedTable referencedColumn : String)
deriving DecidableEq, Repr

/-- The table whose constraint it is. -/
def Row.table : Row → String
  | primary table _ => table
  | foreign table _ _ _ => table

/-- The member that holds the kind of a row. -/
def kindField : String := "key_type"

/-- The name of a kind in a JSON value. -/
def Kind.name : Kind → String
  | primary => "primary"
  | foreign => "foreign"

/-- The members that a row of a kind needs besides its kind. -/
def Kind.fields : Kind → List String
  | primary => ["table_name", "column_name"]
  | foreign => ["table_name", "column_name", "foreign_table_name", "foreign_column_name"]

/-- A row as a JSON object. -/
def Row.toJson : Row → Json
  | primary table column =>
    .object [(kindField, .string Kind.primary.name), ("table_name", .string table),
      ("column_name", .string column)]
  | foreign table column referencedTable referencedColumn =>
    .object [(kindField, .string Kind.foreign.name), ("table_name", .string table),
      ("column_name", .string column), ("foreign_table_name", .string referencedTable),
      ("foreign_column_name", .string referencedColumn)]

end JoinPaths.Catalog
