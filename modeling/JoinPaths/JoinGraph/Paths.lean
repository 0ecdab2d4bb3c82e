import JoinPaths.JoinGraph.Basic
import JoinPaths.Path
import JoinPaths.Search.Basic

/-!
# Paths in a join graph

A path between two tables is found by searching for trails, or it is given by naming its tables one
by one. Both ways lead to the same paths: no table occurs twice, and each is entered through the
linkage from the table before it.
-/

namespace JoinPaths

/-- The path along a trail, whose nodes stand for these tables. -/
def Trail.path {n : Nat} (table : Fin n → Table) : Trail n → Path
  | start i => ⟨table i, []⟩
  | step t l i => (t.path table).extend l (table i)

namespace JoinGraph

/-! ## Searching -/

/-- The first `limit` paths from one table to another: shorter ones first, and of one length those
with smaller names first. -/
def findPaths (g : JoinGraph) (source target : String) (limit : Nat) :
    Except Error (List Path) :=
  (g.node source).bind fun start =>
  (g.node target).map fun goal =>
    (g.links.findTrails start goal limit).map (Trail.path g.tables.get)

/-! ## Naming -/

/-- The nodes of tables that are named one by one and must differ from each other and from those
seen before. -/
def distinctNodes (g : JoinGraph) (seen : List (Fin g.tables.size)) :
    List String → Except Error (List (Fin g.tables.size))
  | [] => .ok []
  | name :: names =>
    match g.node name with
    | .error e => .error e
    | .ok i =>
      if i ∈ seen then .error (.invalidPath (.repeated name))
      else (g.distinctNodes (i :: seen) names).map (i :: ·)

/-- The hops from a node along others. -/
def hopsAlong (g : JoinGraph) (i : Fin g.tables.size) :
    List (Fin g.tables.size) → Except Error (List (Linkage × Table))
  | [] => .ok []
  | j :: nodes =>
    match g.links.get i j with
    | none => .error (.invalidPath (.unlinked (g.tables.get i).name (g.tables.get j).name))
    | some l => (g.hopsAlong j nodes).map ((l, g.tables.get j) :: ·)

/-- The path through the named tables. -/
def explicitPath (g : JoinGraph) (names : List String) : Except Error Path :=
  match names with
  | first :: second :: rest =>
    (g.node first).bind fun i =>
    (g.distinctNodes [i] (second :: rest)).bind fun nodes =>
    (g.hopsAlong i nodes).map fun hops => ⟨g.tables.get i, hops⟩
  | _ => .error (.invalidPath (.tooShort names.length))

end JoinGraph

end JoinPaths
