/-!
# Tables and linkages

A table takes part in a join graph through its name and its primary key column. A linkage pairs a
column of one table with a column of another, read from the first table to the second; its reverse
is the same pairing read from the other end.
-/

namespace JoinPaths

/-- One base table and its primary key column. -/
structure Table where
  name : String
  /-- The column that holds the primary key. -/
  key : String
deriving DecidableEq, Repr

/-- A table as it is shown to a reader: its name, then its key column in parentheses. -/
def Table.display (t : Table) : String :=
  t.name ++ "(" ++ t.key ++ ")"

/-- The column of a source table that is equated with a column of a target table. -/
structure Linkage where
  /-- The column of the table that is left. -/
  source : String
  /-- The column of the table that is entered. -/
  target : String
deriving DecidableEq, Repr

/-- The same pairing of columns, read from the other end. -/
def Linkage.reverse (l : Linkage) : Linkage :=
  ⟨l.target, l.source⟩

/-- Whether a linkage reads the same from both ends. -/
def Linkage.isSymmetric (l : Linkage) : Bool :=
  l == l.reverse

@[simp] theorem Linkage.reverse_reverse (l : Linkage) : l.reverse.reverse = l := rfl

end JoinPaths
