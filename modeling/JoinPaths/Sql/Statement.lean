import JoinPaths.Sql.Identifier

/-!
# Membership statements

A membership statement joins tables in a row and asks whether any combination of their rows has the
given keys. `Statement` is what it says, `Statement.text` how it is written, one part to a line.
-/

namespace JoinPaths.Sql

/-- A table that is joined, with the columns that must be equal. -/
structure Join where
  table : TableRef
  /-- A column of a table before it. -/
  left : ColumnRef
  /-- A column of the table itself. -/
  right : ColumnRef
deriving DecidableEq, Repr

/-- The line of a join. -/
def Join.text (j : Join) : String :=
  "JOIN " ++ j.table.text ++ " ON " ++ j.left.text ++ " = " ++ j.right.text

/-- A key column that must equal a parameter. -/
structure KeyFilter where
  table : String
  /-- Its key column. -/
  column : String
  /-- The number of the parameter, from one. -/
  parameter : Nat
deriving DecidableEq, Repr

/-- The condition of a filter. -/
def KeyFilter.text (f : KeyFilter) : String :=
  tableColumn f.table f.column ++ " = $" ++ Nat.repr f.parameter

/-- A statement that asks whether rows of joined tables have given keys. -/
structure Statement where
  /-- The column of the answer. -/
  answer : String
  /-- The first table. -/
  source : TableRef
  /-- The other tables, in order. -/
  joins : List Join
  /-- The conditions on keys. -/
  filters : List KeyFilter
deriving DecidableEq, Repr

/-- The lines of a statement. -/
def Statement.lines (s : Statement) : List String :=
  ("SELECT COUNT(1) > 0 as " ++ s.answer) :: ("FROM " ++ s.source.text) :: s.joins.map Join.text ++
    ["WHERE " ++ " AND ".intercalate (s.filters.map KeyFilter.text)]

/-- The text of a statement. -/
def Statement.text (s : Statement) : String :=
  "\n".intercalate s.lines

end JoinPaths.Sql
