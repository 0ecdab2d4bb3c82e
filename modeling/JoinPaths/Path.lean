import JoinPaths.Table

/-!
# Join paths

A join path is a table and then any number of hops, each through a linkage to one more table. So a
path has at least one table and one linkage fewer than tables.
-/

namespace JoinPaths

/-- Tables in a row, each joined to the one before it. -/
structure Path where
  start : Table
  /-- The tables behind it, each with the linkage through which it is entered. -/
  hops : List (Linkage × Table)
deriving DecidableEq, Repr

namespace Path

def tables (p : Path) : List Table :=
  p.start :: p.hops.map Prod.snd

def linkages (p : Path) : List Linkage :=
  p.hops.map Prod.fst

def length (p : Path) : Nat :=
  p.hops.length + 1

/-- Whether there is nothing to join. -/
def isTrivial (p : Path) : Bool :=
  p.hops.isEmpty

def finish (p : Path) : Table :=
  p.tables.getLast (List.cons_ne_nil _ _)

def names (p : Path) : List String :=
  p.tables.map Table.name

/-- A path as it is shown to a reader: the names with arrows between them. -/
def display (p : Path) : String :=
  " -> ".intercalate p.names

/-- Hops that leave a table, each with the table it leaves. -/
def segmentsFrom (source : Table) : List (Linkage × Table) → List (Table × Linkage × Table)
  | [] => []
  | (l, target) :: hops => (source, l, target) :: segmentsFrom target hops

/-- The hops of a path, each with the tables at both its ends. -/
def segments (p : Path) : List (Table × Linkage × Table) :=
  segmentsFrom p.start p.hops

/-- The path that goes on to one table more. -/
def extend (p : Path) (l : Linkage) (target : Table) : Path :=
  { p with hops := p.hops ++ [(l, target)] }

@[simp] theorem length_tables (p : Path) : p.tables.length = p.length := by
  simp [tables, length]

@[simp] theorem length_linkages (p : Path) : p.linkages.length + 1 = p.length := by
  simp [linkages, length]

@[simp] theorem tables_extend (p : Path) (l : Linkage) (target : Table) :
    (p.extend l target).tables = p.tables ++ [target] := by
  simp [tables, extend]

@[simp] theorem linkages_extend (p : Path) (l : Linkage) (target : Table) :
    (p.extend l target).linkages = p.linkages ++ [l] := by
  simp [linkages, extend]

end Path

end JoinPaths
