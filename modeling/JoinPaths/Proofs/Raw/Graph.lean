import JoinPaths.Membership.Basic
import JoinPaths.Proofs.JoinGraph.ExplicitPath
import JoinPaths.Proofs.Membership.Run
import JoinPaths.Proofs.Raw.Search

/-!
# Graphs with plain numbers

All that is asked of a graph, over plain numbers and lists. A `Checked` result is a failure of the
library, an answer, or `none` for an access or a check inside that fails. The list of tables is
checked to be sorted whenever a name is looked up in it.
-/

namespace JoinPaths

open Catalog (Row)

namespace Raw

/-! ## Checked results -/

/-- An answer or a failure of the library, unless something inside fails. -/
abbrev Checked (α : Type) :=
  ExceptT Error Option α

namespace Checked

variable {α β γ : Type}

/-- The result of something in which nothing fails inside. -/
def of (x : Except Error α) : Checked α :=
  some x

theorem of_ok_bind (a : α) (next : α → Checked β) : (of (.ok a) >>= next) = next a :=
  rfl

theorem of_bind {x : Except Error α} {next : α → Checked β} {f : α → Except Error β}
    (h : ∀ a, x = .ok a → next a = of (f a)) : (of x >>= next) = of (x.bind f) := by
  cases x with
  | error e => rfl
  | ok a => exact h a rfl

/-- A step that goes on with the plain form of what comes out of the step before it. -/
theorem of_map_bind {x : Except Error α} {plain : α → γ} {next : γ → Checked β}
    {f : α → Except Error β} (h : ∀ a, x = .ok a → next (plain a) = of (f a)) :
    (of (x.map plain) >>= next) = of (x.bind f) := by
  cases x with
  | error e => rfl
  | ok a => exact h a rfl

end Checked

/-! ## Looking up names -/

/-- Looks for a name from place `lo` to before place `hi`, in the half in which it must be. -/
def halve? (tables : List Table) (name : String) (lo hi : Nat) : Option (Option Nat) :=
  if h : lo < hi then do
    let here ← tables[lo + (hi - lo) / 2]?
    if name < here.name then halve? tables name lo (lo + (hi - lo) / 2)
    else if here.name < name then halve? tables name (lo + (hi - lo) / 2 + 1) hi
    else return some (lo + (hi - lo) / 2)
  else return none
termination_by hi - lo
decreasing_by all_goals omega

/-- Whether no name in a list is above the next one. -/
def isSorted : List Table → Bool
  | a :: b :: rest => decide (a.name ≤ b.name) && isSorted (b :: rest)
  | _ => true

/-- The place of the table with a name, in tables that must be sorted. -/
def find? (tables : List Table) (name : String) : Option (Option Nat) :=
  if isSorted tables then halve? tables name 0 tables.length else none

/-! ## Graphs -/

/-- Tables and a grid. -/
structure Graph where
  schema : String
  directed : Bool
  tables : List Table
  grid : Grid

/-- Enters the foreign keys in the order of the rows. -/
def enterRows? (tables : List Table) (directed : Bool) (grid : Grid) : List Row → Checked Grid
  | [] => return grid
  | .primary .. :: rows => enterRows? tables directed grid rows
  | .foreign table column referencedTable referencedColumn :: rows => do
    match ← find? tables table, ← find? tables referencedTable with
    | some i, some j => do
      let grid ← grid.link? directed i j ⟨column, referencedColumn⟩
      enterRows? tables directed grid rows
    | _, _ => throw (.unresolvedReference table referencedTable)

namespace Graph

/-- The graph of some rows. -/
def ofRows? (rows : List Row) (schema : String) (directed : Bool) : Checked Graph :=
  match TableList.ofTables (JoinGraph.primaryTables rows) with
  | .error table => throw (.duplicateTable table)
  | .ok ts => do
    let tables := ts.toList
    let grid ← enterRows? tables directed (.empty tables.length) rows
    return { schema, directed, tables, grid }

def tableAt? (g : Graph) (i : Nat) : Option Table :=
  g.tables[i]?

/-- The node of the table with a name. -/
def node? (g : Graph) (name : String) : Checked Nat := do
  match ← find? g.tables name with
  | some i => return i
  | none => throw (.unknownTable name)

/-- The table with a name. -/
def table? (g : Graph) (name : String) : Option (Option Table) := do
  match ← find? g.tables name with
  | some i => do
    let table ← g.tableAt? i
    return some table
  | none => return none

/-- The linkage from one table to another. -/
def linkage? (g : Graph) (source target : String) : Checked (Option Linkage) := do
  let i ← g.node? source
  let j ← g.node? target
  g.grid.get? i j

/-- The first `limit` paths from one table to another. -/
noncomputable def findPaths? (g : Graph) (source target : String) (limit : Nat) :
    Checked (List Path) := do
  let start ← g.node? source
  let goal ← g.node? target
  g.grid.findPaths? g.tables start goal limit

/-- The nodes of tables that are named one by one and must differ. -/
def distinctNodes? (g : Graph) (seen : List Nat) : List String → Checked (List Nat)
  | [] => return []
  | name :: names => do
    let i ← g.node? name
    if i ∈ seen then throw (.invalidPath (.repeated name))
    else do
      let others ← g.distinctNodes? (i :: seen) names
      return i :: others

/-- The linkages between nodes that stand side by side. -/
def linkagesAlong? (g : Graph) : List Nat → Checked (List Linkage)
  | i :: j :: nodes => do
    match ← g.grid.get? i j with
    | some l => do
      let others ← g.linkagesAlong? (j :: nodes)
      return l :: others
    | none => do
      let source ← g.tableAt? i
      let target ← g.tableAt? j
      throw (.invalidPath (.unlinked source.name target.name))
  | _ => return []

/-- The path through the named tables. There must be a last node, which no linkage leaves. -/
def explicitPath? (g : Graph) (names : List String) : Checked Path :=
  if names.length < 2 then throw (.invalidPath (.tooShort names.length))
  else do
    let nodes ← g.distinctNodes? [] names
    let _ ← lastPlace? nodes
    let linkages ← g.linkagesAlong? nodes
    let tables ← (nodes.mapM g.tableAt? : Option (List Table))
    Path.new? tables linkages

end Graph

/-! ## Membership -/

/-- The membership query of a path that has something to join. -/
def Path.query? (p : Path) (schema : String) : Checked Query := do
  let start ← p.start?
  if p.linkages.isEmpty then throw (.nothingToJoin start.name)
  else do
    let finish ← p.finish?
    return {
      statement := {
        answer := flagColumn
        source := ⟨schema, start.name⟩
        joins := p.hops.map (JoinPaths.Path.joinOf schema)
        filters := [⟨start.name, start.key, 1⟩, ⟨finish.name, finish.key, 2⟩] }
      parameters := [.source, .target] }

/-- The queries of paths, in order. -/
def Path.queries? (schema : String) : List Path → Checked (List Query)
  | [] => return []
  | p :: paths => do
    let q ← p.query? schema
    let others ← queries? schema paths
    return q :: others

namespace Graph

/-- The queries of the first `limit` paths between two tables; a path of one table has none. -/
noncomputable def candidates? (g : Graph) (source target : String) (limit : Nat) :
    Checked (List Query) := do
  let paths ← g.findPaths? source target limit
  Path.queries? g.schema (paths.filter fun p => !p.linkages.isEmpty)

/-- Whether a row belongs to another, through one of the first `limit` paths. -/
noncomputable def belongsTo? (g : Graph) (executor : Executor)
    (source sourceKey target targetKey : String) (limit : Nat) : Option (Run Error Bool) := do
  match ← (g.candidates? source target limit).run with
  | .error e => return ⟨[], .error e⟩
  | .ok queries => return executor.tryAll sourceKey targetKey [] queries

/-- Whether a row belongs to another, through the path of the named tables. -/
def belongsToVia? (g : Graph) (executor : Executor) (names : List String)
    (sourceKey targetKey : String) : Option (Run Error Bool) := do
  let query : Checked Query := do
    let p ← g.explicitPath? names
    p.query? g.schema
  match ← query.run with
  | .error e => return ⟨[], .error e⟩
  | .ok q => return ⟨[q.call sourceKey targetKey], executor.ask [] (q.call sourceKey targetKey)⟩

end Graph

end Raw

/-! ## Plain table lists -/

theorem Raw.isSorted_of_pairwise {tables : List Table}
    (h : tables.Pairwise fun a b => a.name < b.name) : isSorted tables = true := by
  induction tables with
  | nil => rfl
  | cons a tables ih =>
    obtain ⟨hfirst, htail⟩ := List.pairwise_cons.1 h
    cases tables with
    | nil => rfl
    | cons b rest =>
      have hle : a.name ≤ b.name :=
        String.not_lt.1 (String.lt_asymm (hfirst b List.mem_cons_self))
      rw [isSorted, ih htail, decide_eq_true hle]
      rfl

namespace TableList

variable (ts : TableList)

theorem halve?_raw (name : String) (lo hi : Nat) (hhi : hi ≤ ts.size) :
    Raw.halve? ts.toList name lo hi = some ((ts.findBetween? name lo hi hhi).map Fin.val) := by
  fun_induction findBetween? ts name lo hi hhi with
  | case1 lo hi hhi hlt mid hmid here hbelow ih =>
    rw [Raw.halve?, dif_pos hlt, ts.getElem?_toList ⟨mid, hmid⟩]
    show (if name < here then _ else _) = _
    rw [if_pos hbelow, ih]
  | case2 lo hi hhi hlt mid hmid here hbelow habove ih =>
    rw [Raw.halve?, dif_pos hlt, ts.getElem?_toList ⟨mid, hmid⟩]
    show (if name < here then _ else if here < name then _ else _) = _
    rw [if_neg hbelow, if_pos habove, ih]
  | case3 lo hi hhi hlt mid hmid here hbelow habove =>
    rw [Raw.halve?, dif_pos hlt, ts.getElem?_toList ⟨mid, hmid⟩]
    show (if name < here then _ else if here < name then _ else _) = _
    rw [if_neg hbelow, if_neg habove]
    rfl
  | case4 lo hi hhi hlt =>
    rw [Raw.halve?, dif_neg hlt]
    rfl

theorem find?_raw (name : String) :
    Raw.find? ts.toList name = some ((ts.find? name).map Fin.val) := by
  have hsorted : Raw.isSorted ts.toList = true := Raw.isSorted_of_pairwise ts.ascending
  unfold Raw.find?
  rw [if_pos hsorted]
  exact ts.halve?_raw name 0 ts.size (Nat.le_refl _)

end TableList

/-! ## Plain graphs -/

namespace JoinGraph

open Raw.Checked

variable (g : JoinGraph)

/-- A graph with plain numbers. -/
def raw : Raw.Graph :=
  ⟨g.schema, g.directed, g.tables.toList, g.links.raw⟩

theorem enterRows?_raw (ts : TableList) (directed : Bool) (links : LinkGrid ts.size)
    (rows : List Row) :
    Raw.enterRows? ts.toList directed links.raw rows =
      of ((enterRows ts directed links rows).map LinkGrid.raw) := by
  induction rows generalizing links with
  | nil => rfl
  | cons row rows ih =>
    cases row with
    | primary table column => exact ih links
    | foreign table column referencedTable referencedColumn =>
      rw [Raw.enterRows?, enterRows, ts.find?_raw, ts.find?_raw]
      cases ts.find? table with
      | none => rfl
      | some i =>
        cases ts.find? referencedTable with
        | none => rfl
        | some j =>
          show ((liftM (links.raw.link? directed i.val j.val _) : Raw.Checked _) >>= _) = _
          rw [LinkGrid.link?_raw]
          exact ih _

/-- Nothing fails inside when a graph is built, whatever the rows are. -/
theorem ofRows?_raw (rows : List Row) (schema : String) (directed : Bool) :
    Raw.Graph.ofRows? rows schema directed = of ((ofRows rows schema directed).map raw) := by
  unfold Raw.Graph.ofRows? ofRows
  cases TableList.ofTables (primaryTables rows) with
  | error table => rfl
  | ok ts =>
    have hlinks : Raw.enterRows? ts.toList directed (.empty ts.toList.length) rows =
        of ((enterRows ts directed (.empty ts.size) rows).map LinkGrid.raw) := by
      rw [← enterRows?_raw, LinkGrid.raw_empty]
      rfl
    show (Raw.enterRows? ts.toList directed (.empty ts.toList.length) rows >>= _) = _
    rw [hlinks]
    dsimp only
    cases enterRows ts directed (.empty ts.size) rows with
    | error e => rfl
    | ok links => rfl

theorem node?_raw (name : String) : g.raw.node? name = of ((g.node name).map Fin.val) := by
  unfold Raw.Graph.node? node
  show ((liftM (Raw.find? g.tables.toList name) : Raw.Checked _) >>= _) = _
  rw [g.tables.find?_raw]
  cases g.tables.find? name with
  | none => rfl
  | some i => rfl

theorem tableAt?_raw (i : Fin g.tables.size) : g.raw.tableAt? i.val = some (g.tables.get i) :=
  g.tables.getElem?_toList i

theorem table?_raw (name : String) : g.raw.table? name = some (g.table? name) := by
  unfold Raw.Graph.table? table?
  show (Raw.find? g.tables.toList name >>= _) = _
  rw [g.tables.find?_raw]
  cases g.tables.find? name with
  | none => rfl
  | some i =>
    show (g.raw.tableAt? i.val >>= _) = _
    rw [tableAt?_raw]
    rfl

theorem linkage?_raw (source target : String) :
    g.raw.linkage? source target = of (g.linkage? source target) := by
  unfold Raw.Graph.linkage? linkage?
  rw [g.node?_raw]
  refine of_map_bind fun i _ => ?_
  rw [g.node?_raw]
  cases g.node target with
  | error e => rfl
  | ok j =>
    show (liftM (g.links.raw.get? i.val j.val) : Raw.Checked _) = _
    rw [LinkGrid.get?_raw]
    rfl

theorem findPaths?_raw (source target : String) (limit : Nat) :
    g.raw.findPaths? source target limit =
      of ((g.findPaths source target limit).map (List.map Path.raw)) := by
  unfold Raw.Graph.findPaths? findPaths
  rw [g.node?_raw, g.node?_raw]
  cases g.node source with
  | error e => rfl
  | ok start =>
    cases g.node target with
    | error e => rfl
    | ok goal =>
      show (liftM (g.links.raw.findPaths? g.tables.toList start.val goal.val limit) :
        Raw.Checked _) = of (.ok (List.map Path.raw (List.map _ _)))
      rw [LinkGrid.findPaths?_raw, List.map_map]
      rfl

theorem distinctNodes?_raw (seen : List (Fin g.tables.size)) (names : List String) :
    g.raw.distinctNodes? (seen.map Fin.val) names =
      of ((g.distinctNodes seen names).map (List.map Fin.val)) := by
  induction names generalizing seen with
  | nil => rfl
  | cons name names ih =>
    rw [Raw.Graph.distinctNodes?, distinctNodes, g.node?_raw]
    cases g.node name with
    | error e => rfl
    | ok i =>
      show (if i.val ∈ seen.map Fin.val then _ else _) = _
      dsimp only
      by_cases hseen : i ∈ seen
      · rw [if_pos hseen, if_pos ((List.mem_map_of_injective Fin.val_injective).2 hseen)]
        rfl
      · have hrest := ih (i :: seen)
        rw [List.map_cons] at hrest
        rw [if_neg hseen, if_neg (mt (List.mem_map_of_injective Fin.val_injective).1 hseen), hrest]
        cases g.distinctNodes (i :: seen) names with
        | error e => rfl
        | ok nodes => rfl

theorem linkagesAlong?_raw (i : Fin g.tables.size) (nodes : List (Fin g.tables.size)) :
    g.raw.linkagesAlong? ((i :: nodes).map Fin.val) =
      of ((g.hopsAlong i nodes).map (List.map Prod.fst)) := by
  induction nodes generalizing i with
  | nil => rfl
  | cons j nodes ih =>
    have hrest := ih j
    rw [List.map_cons] at hrest
    rw [List.map_cons, List.map_cons, Raw.Graph.linkagesAlong?, hopsAlong]
    show ((liftM (g.links.raw.get? i.val j.val) : Raw.Checked _) >>= _) = _
    rw [LinkGrid.get?_raw]
    cases g.links.get i j with
    | none =>
      show ((liftM (g.raw.tableAt? i.val) : Raw.Checked _) >>= _) = _
      rw [tableAt?_raw]
      show ((liftM (g.raw.tableAt? j.val) : Raw.Checked _) >>= _) = _
      rw [tableAt?_raw]
      rfl
    | some l =>
      show (g.raw.linkagesAlong? (j.val :: nodes.map Fin.val) >>= _) = _
      rw [hrest]
      dsimp only
      cases g.hopsAlong j nodes with
      | error e => rfl
      | ok hops => rfl

theorem mapM_tableAt?_raw (nodes : List (Fin g.tables.size)) :
    (nodes.map Fin.val).mapM g.raw.tableAt? = some (nodes.map g.tables.get) := by
  rw [List.mapM_map]
  show List.mapM (fun i : Fin g.tables.size => g.raw.tableAt? i.val) nodes = _
  simp only [tableAt?_raw]
  exact List.mapM_pure

theorem explicitPath?_raw (names : List String) :
    g.raw.explicitPath? names = of ((g.explicitPath names).map Path.raw) := by
  cases names with
  | nil => rfl
  | cons first names =>
    cases names with
    | nil => rfl
    | cons second rest =>
      have hnodes := g.distinctNodes?_raw [] (first :: second :: rest)
      rw [List.map_nil, distinctNodes_cons] at hnodes
      unfold Raw.Graph.explicitPath? explicitPath
      rw [if_neg (by simp), hnodes]
      dsimp only [Except.bind]
      cases g.node first with
      | error e => rfl
      | ok i =>
        dsimp only
        cases g.distinctNodes [i] (second :: rest) with
        | error e => rfl
        | ok nodes =>
          show (of (.ok ((i :: nodes).map Fin.val)) >>= _) = _
          rw [of_ok_bind, List.map_cons, Raw.lastPlace?_of_ne_nil (List.cons_ne_nil _ _),
            ← List.map_cons]
          show (g.raw.linkagesAlong? ((i :: nodes).map Fin.val) >>= _) = _
          rw [linkagesAlong?_raw]
          dsimp only
          cases hhops : g.hopsAlong i nodes with
          | error e => rfl
          | ok hops =>
            obtain ⟨htables, -⟩ := hopsAlong_eq_ok_iff.1 hhops
            show
              ((liftM (((i :: nodes).map Fin.val).mapM g.raw.tableAt?) : Raw.Checked _) >>= _) = _
            rw [mapM_tableAt?_raw, List.map_cons, ← htables]
            show (liftM (Raw.Path.new? (Path.mk (g.tables.get i) hops).tables
              (Path.mk (g.tables.get i) hops).linkages) : Raw.Checked _) = _
            rw [Path.new?_raw]
            rfl

end JoinGraph

/-! ## Plain queries -/

namespace Path

open Raw.Checked

theorem isEmpty_linkages_raw (p : Path) : p.raw.linkages.isEmpty = p.isTrivial := by
  unfold raw linkages isTrivial
  rw [List.isEmpty_map]

theorem query?_raw (p : Path) (schema : String) : p.raw.query? schema = of (p.query schema) := by
  unfold Raw.Path.query? query
  rw [start?_raw]
  show (if p.raw.linkages.isEmpty = true then _ else _) = _
  rw [isEmpty_linkages_raw]
  by_cases htrivial : p.isTrivial = true
  · rw [if_pos htrivial, if_pos htrivial]
    rfl
  · rw [if_neg htrivial, if_neg htrivial, finish?_raw]
    show of (.ok _) = _
    rw [hops_raw]
    rfl

theorem queries?_raw (schema : String) (paths : List Path) :
    Raw.Path.queries? schema (paths.map raw) = of (Path.queries schema paths) := by
  induction paths with
  | nil => rfl
  | cons p paths ih =>
    rw [List.map_cons, Raw.Path.queries?, Path.queries, query?_raw, ih]
    refine of_bind fun q _ => ?_
    cases Path.queries schema paths with
    | error e => rfl
    | ok queries => rfl

end Path

/-! ## Plain questions -/

namespace JoinGraph

open Raw.Checked

variable (g : JoinGraph)

theorem candidates?_raw (source target : String) (limit : Nat) :
    g.raw.candidates? source target limit = of (g.candidates source target limit) := by
  unfold Raw.Graph.candidates? candidates
  rw [findPaths?_raw]
  refine of_map_bind fun paths _ => ?_
  rw [List.filter_map]
  have hkept : (fun p => !p.linkages.isEmpty) ∘ Path.raw = fun p => !p.isTrivial := by
    funext p
    exact congrArg (!·) p.isEmpty_linkages_raw
  rw [hkept]
  exact Path.queries?_raw g.schema _

theorem belongsTo?_raw (executor : Executor) (source sourceKey target targetKey : String)
    (limit : Nat) :
    g.raw.belongsTo? executor source sourceKey target targetKey limit =
      some (g.belongsTo executor source sourceKey target targetKey limit) := by
  unfold Raw.Graph.belongsTo? belongsTo
  rw [candidates?_raw]
  cases g.candidates source target limit with
  | error e => rfl
  | ok queries => rfl

theorem belongsToVia?_raw (executor : Executor) (names : List String)
    (sourceKey targetKey : String) :
    g.raw.belongsToVia? executor names sourceKey targetKey =
      some (g.belongsToVia executor names sourceKey targetKey) := by
  have hquery : (g.raw.explicitPath? names >>= fun p => p.query? g.raw.schema) =
      of ((g.explicitPath names).bind fun p => p.query g.schema) := by
    rw [explicitPath?_raw]
    exact of_map_bind fun p _ => p.query?_raw g.schema
  unfold Raw.Graph.belongsToVia? belongsToVia
  rw [hquery]
  cases (g.explicitPath names).bind fun p => p.query g.schema with
  | error e => rfl
  | ok q => rfl

end JoinGraph

end JoinPaths
