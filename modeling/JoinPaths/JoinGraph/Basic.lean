import JoinPaths.Catalog.Row
import JoinPaths.Error
import JoinPaths.LinkGrid
import JoinPaths.TableList

/-!
# Join graphs

The nodes of a join graph are the tables with a primary key, in name order; its edges are linkages.
Every foreign key links its table to the table it refers to, and in an undirected graph, reversed,
also the other way round. Foreign keys are entered in the order of the rows, so that of two on the
same tables the later one counts. A graph is built as a whole or not at all.
-/

namespace JoinPaths

/-- The tables of a schema and the linkages between them. -/
structure JoinGraph where
  schema : String
  /-- Whether foreign keys are followed only from their table to the one they refer to. -/
  directed : Bool
  tables : TableList
  links : LinkGrid tables.size

/-- Enters a foreign key between two nodes. -/
def LinkGrid.link {n : Nat} (g : LinkGrid n) (directed : Bool) (i j : Fin n) (l : Linkage) :
    LinkGrid n :=
  if directed then g.set i j l else (g.set j i l.reverse).set i j l

namespace JoinGraph

/-! ## Building -/

/-- The tables of the primary keys, in the order of the rows. -/
def primaryTables (rows : List Catalog.Row) : List Table :=
  rows.filterMap fun
    | .primary table column => some ⟨table, column⟩
    | .foreign .. => none

/-- Enters the foreign keys in the order of the rows. -/
def enterRows (tables : TableList) (directed : Bool) (g : LinkGrid tables.size) :
    List Catalog.Row → Except Error (LinkGrid tables.size)
  | [] => .ok g
  | .primary .. :: rows => enterRows tables directed g rows
  | .foreign table column referencedTable referencedColumn :: rows =>
    match tables.find? table, tables.find? referencedTable with
    | some i, some j =>
      enterRows tables directed (g.link directed i j ⟨column, referencedColumn⟩) rows
    | _, _ => .error (.unresolvedReference table referencedTable)

/-- The graph of some rows. -/
def ofRows (rows : List Catalog.Row) (schema : String) (directed : Bool) :
    Except Error JoinGraph :=
  match TableList.ofTables (primaryTables rows) with
  | .error table => .error (.duplicateTable table)
  | .ok tables =>
    match enterRows tables directed (.empty _) rows with
    | .error e => .error e
    | .ok links => .ok { schema, directed, tables, links }

/-! ## Looking at a graph -/

/-- The names of the tables in ascending order. -/
def tableNames (g : JoinGraph) : List String :=
  g.tables.toList.map Table.name

/-- The table with a name. -/
def table? (g : JoinGraph) (name : String) : Option Table :=
  (g.tables.find? name).map g.tables.get

/-- The node of the table with a name. -/
def node (g : JoinGraph) (name : String) : Except Error (Fin g.tables.size) :=
  match g.tables.find? name with
  | some i => .ok i
  | none => .error (.unknownTable name)

/-- The linkage from one table to another. -/
def linkage? (g : JoinGraph) (source target : String) : Except Error (Option Linkage) :=
  (g.node source).bind fun i =>
  (g.node target).map fun j => g.links.get i j

/-- The number of ordered pairs of tables that are linked. -/
def edgeCount (g : JoinGraph) : Nat :=
  g.links.edgeCount

/-- The linked pairs of tables with their linkages, in the order of the tables. -/
def edges (g : JoinGraph) : List (Table × Linkage × Table) :=
  (List.finRange g.tables.size).flatMap fun i =>
    (g.links.neighbors i).map fun (j, l) => (g.tables.get i, l, g.tables.get j)

end JoinGraph

end JoinPaths
