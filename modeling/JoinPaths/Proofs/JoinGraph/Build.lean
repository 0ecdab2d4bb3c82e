import JoinPaths.Proofs.JoinGraph.Basic
import JoinPaths.Proofs.LinkGrid
import Mathlib.Data.List.ProdSigma

/-!
# What a graph is built from

The tables of a graph are those of the primary keys, each with its own column, and the linkage from
one table to another is that of the last foreign key that says something about the two
(`get_enterRows`): in a directed graph the last one from the first table to the second, in an
undirected one the last one between them, read from the first table to the second.
-/

namespace JoinPaths

open Catalog (Row)

/-- The primary key of a table as a row. -/
def Table.primaryRow (t : Table) : Row :=
  .primary t.name t.key

namespace Catalog.Row

/-- Whether a row is a primary key. -/
def isPrimary : Row → Bool
  | primary .. => true
  | foreign .. => false

/-- Whether a row is a primary key of a table. -/
def isPrimaryOf (name : String) : Row → Bool
  | primary table _ => table == name
  | foreign .. => false

/-- The linkage that a foreign key from one table to another stands for. -/
def linkageFrom? (source target : String) : Row → Option Linkage
  | primary .. => none
  | foreign table column referencedTable referencedColumn =>
    if table = source ∧ referencedTable = target then some ⟨column, referencedColumn⟩ else none

/-- The linkage that a foreign key between two tables stands for, whichever of them it is from: as
written if it is from the first one, and reversed if it is from the second one. -/
def linkageBetween? (source target : String) (row : Row) : Option Linkage :=
  (row.linkageFrom? source target).or ((row.linkageFrom? target source).map Linkage.reverse)

/-- What a row says about the linkage from one table to another. -/
def linkageIn? (directed : Bool) (source target : String) (row : Row) : Option Linkage :=
  if directed then row.linkageFrom? source target else row.linkageBetween? source target

/-- The tables between which a row links. -/
def ends : Row → List String
  | primary .. => []
  | foreign table _ referencedTable _ => [table, referencedTable]

theorem linkageBetween?_self (name : String) (row : Row) :
    row.linkageBetween? name name = row.linkageFrom? name name := by
  rw [linkageBetween?]
  cases row.linkageFrom? name name <;> rfl

theorem linkageIn?_self (directed : Bool) (name : String) (row : Row) :
    row.linkageIn? directed name name = row.linkageFrom? name name := by
  cases directed with
  | true => rfl
  | false => exact linkageBetween?_self name row

end Catalog.Row

namespace JoinGraph

variable {rows : List Row} {schema : String} {directed : Bool} {g : JoinGraph}

/-! ## Tables -/

theorem mem_primaryTables_iff {t : Table} :
    t ∈ primaryTables rows ↔ .primary t.name t.key ∈ rows := by
  unfold primaryTables
  rw [List.mem_filterMap]
  constructor
  · rintro ⟨row, hrow, h⟩
    cases row with
    | primary table column =>
      obtain rfl := Option.some.inj h
      exact hrow
    | foreign => simp at h
  · intro h
    exact ⟨_, h, rfl⟩

theorem map_primaryRow_primaryTables (rows : List Row) :
    (primaryTables rows).map Table.primaryRow = rows.filter Row.isPrimary := by
  induction rows with
  | nil => rfl
  | cons row rows ih =>
    cases row with
    | primary table column =>
      rw [List.filter_cons_of_pos rfl, ← ih]
      rfl
    | foreign table column referencedTable referencedColumn =>
      rw [List.filter_cons_of_neg (by exact Bool.false_ne_true), ← ih]
      rfl

theorem filter_isPrimaryOf (rows : List Row) (name : String) :
    rows.filter (Row.isPrimaryOf name) =
      ((primaryTables rows).filter fun t => t.name == name).map Table.primaryRow := by
  have hof : Row.isPrimaryOf name = fun row => row.table == name && row.isPrimary := by
    funext row
    cases row with
    | primary table column => exact (Bool.and_true _).symm
    | foreign table column referencedTable referencedColumn => exact (Bool.and_false _).symm
  rw [hof, ← List.filter_filter, ← map_primaryRow_primaryTables, List.filter_map]
  rfl

theorem ofRows_cases (h : ofRows rows schema directed = .ok g) :
    g.tables.toList.Perm (primaryTables rows) ∧
      enterRows g.tables directed (.empty _) rows = .ok g.links := by
  unfold ofRows at h
  split at h
  · simp at h
  · next tables htables =>
    split at h
    · simp at h
    · next links hlinks =>
      obtain rfl := Except.ok.inj h
      exact ⟨TableList.perm_of_ofTables htables, hlinks⟩

theorem mem_tables_ofRows (h : ofRows rows schema directed = .ok g) {t : Table} :
    t ∈ g.tables.toList ↔ .primary t.name t.key ∈ rows := by
  rw [(ofRows_cases h).1.mem_iff, mem_primaryTables_iff]

theorem mem_tableNames_ofRows (h : ofRows rows schema directed = .ok g) {name : String} :
    name ∈ g.tableNames ↔ ∃ column, .primary name column ∈ rows := by
  unfold tableNames
  rw [List.mem_map]
  constructor
  · rintro ⟨t, ht, rfl⟩
    exact ⟨t.key, (mem_tables_ofRows h).1 ht⟩
  · rintro ⟨column, hrow⟩
    exact ⟨⟨name, column⟩, (mem_tables_ofRows h).2 hrow, rfl⟩

theorem table?_ofRows (h : ofRows rows schema directed = .ok g) {name column : String}
    (hrow : .primary name column ∈ rows) : g.table? name = some ⟨name, column⟩ :=
  table?_eq_some_iff.2 ⟨(mem_tables_ofRows h).2 hrow, rfl⟩

theorem schema_ofRows (h : ofRows rows schema directed = .ok g) : g.schema = schema := by
  unfold ofRows at h
  split at h
  · cases h
  · split at h
    · cases h
    · obtain rfl := Except.ok.inj h
      rfl

theorem filter_name_eq_singleton {tables : List Table} (hnodup : (tables.map Table.name).Nodup)
    {t : Table} (ht : t ∈ tables) : (tables.filter fun u => u.name == t.name) = [t] := by
  induction tables with
  | nil => exact absurd ht List.not_mem_nil
  | cons a tables ih =>
    rw [List.map_cons, List.nodup_cons] at hnodup
    rcases List.mem_cons.1 ht with rfl | ht
    · rw [List.filter_cons_of_pos (by simp), List.filter_eq_nil_iff.2]
      intro u hu huname
      exact hnodup.1 (List.mem_map.2 ⟨u, hu, beq_iff_eq.1 huname⟩)
    · rw [List.filter_cons_of_neg, ih hnodup.2 ht]
      intro haname
      exact hnodup.1 (List.mem_map.2 ⟨t, ht, (beq_iff_eq.1 haname).symm⟩)

theorem filter_isPrimaryOf_ofRows (h : ofRows rows schema directed = .ok g) {t : Table}
    (ht : t ∈ g.tables.toList) :
    rows.filter (Row.isPrimaryOf t.name) = [.primary t.name t.key] := by
  have hperm := (ofRows_cases h).1
  have hnodup : ((primaryTables rows).map Table.name).Nodup :=
    (hperm.map Table.name).nodup_iff.1 g.nodup_tableNames
  rw [filter_isPrimaryOf, filter_name_eq_singleton hnodup (hperm.mem_iff.1 ht)]
  rfl

/-! ## Linkages -/

/-- What a foreign key leaves in a cell is what it says about the tables of the cell. -/
theorem get_link_eq_or {tables : TableList} (links : LinkGrid tables.size) (directed : Bool)
    (a b i j : Fin tables.size) (column referencedColumn : String) :
    (links.link directed a b ⟨column, referencedColumn⟩).get i j =
      (Row.linkageIn? directed (tables.get i).name (tables.get j).name
        (.foreign (tables.get a).name column (tables.get b).name referencedColumn)).or
          (links.get i j) := by
  rw [LinkGrid.get_link]
  cases directed <;>
    simp only [Row.linkageIn?, Row.linkageBetween?, Row.linkageFrom?, TableList.name_get_inj,
      Bool.false_eq_true, Bool.true_eq_false, if_true, if_false, true_and, false_and]
  · by_cases hij : a = i ∧ b = j
    · rw [if_pos hij, if_pos hij]
      rfl
    · rw [if_neg hij, if_neg hij]
      by_cases hji : b = i ∧ a = j
      · rw [if_pos hji, if_pos hji.symm]
        rfl
      · rw [if_neg hji, if_neg fun e => hji e.symm]
        rfl
  · by_cases hij : a = i ∧ b = j
    · rw [if_pos hij, if_pos hij]
      rfl
    · rw [if_neg hij, if_neg hij]
      rfl

/-- A cell holds what the last row that says something about it says, or what it held before. -/
theorem get_enterRows {tables : TableList} {links links' : LinkGrid tables.size}
    (h : enterRows tables directed links rows = .ok links') (i j : Fin tables.size) :
    links'.get i j =
      (rows.filterMap (Row.linkageIn? directed (tables.get i).name (tables.get j).name)).getLast?.or
        (links.get i j) := by
  induction rows generalizing links with
  | nil =>
    obtain rfl := Except.ok.inj h
    rfl
  | cons row rows ih =>
    cases row with
    | primary table column =>
      have hnone : Row.linkageIn? directed (tables.get i).name (tables.get j).name
          (.primary table column) = none := by
        cases directed <;> rfl
      rw [List.filterMap_cons_none hnone]
      exact ih h
    | foreign table column referencedTable referencedColumn =>
      simp only [enterRows] at h
      split at h
      · next a b ha hb =>
        obtain rfl := TableList.find?_eq_some_iff.1 ha
        obtain rfl := TableList.find?_eq_some_iff.1 hb
        rw [ih h, get_link_eq_or]
        cases hrow : Row.linkageIn? directed (tables.get i).name (tables.get j).name
            (.foreign (tables.get a).name column (tables.get b).name referencedColumn) with
        | none => rw [List.filterMap_cons_none hrow, Option.none_or]
        | some l =>
          rw [List.filterMap_cons_some hrow, List.getLast?_cons, Option.some_or]
          cases (rows.filterMap
            (Row.linkageIn? directed (tables.get i).name (tables.get j).name)).getLast? <;> rfl
      · simp at h

theorem linkage?_ofRows (h : ofRows rows schema directed = .ok g) {source target : String}
    (hs : source ∈ g.tableNames) (ht : target ∈ g.tableNames) :
    g.linkage? source target =
      .ok (rows.filterMap (Row.linkageIn? directed source target)).getLast? := by
  obtain ⟨i, rfl⟩ := mem_tableNames_iff.1 hs
  obtain ⟨j, rfl⟩ := mem_tableNames_iff.1 ht
  rw [linkage?_name_get, get_enterRows (ofRows_cases h).2, LinkGrid.get_empty, Option.or_none]

/-! ## Success -/

theorem exists_enterRows {tables : TableList} (directed : Bool) (links : LinkGrid tables.size)
    (h : ∀ row ∈ rows, ∀ name ∈ row.ends, ∃ i, (tables.get i).name = name) :
    ∃ links', enterRows tables directed links rows = .ok links' := by
  induction rows generalizing links with
  | nil => exact ⟨links, rfl⟩
  | cons row rows ih =>
    have hrest := fun links => ih links fun row hrow => h row (List.mem_cons_of_mem _ hrow)
    cases row with
    | primary table column => exact hrest links
    | foreign table column referencedTable referencedColumn =>
      have hrow := h _ List.mem_cons_self
      obtain ⟨i, hi⟩ := hrow table (by simp [Row.ends])
      obtain ⟨j, hj⟩ := hrow referencedTable (by simp [Row.ends])
      unfold enterRows
      rw [TableList.find?_eq_some_iff.2 hi, TableList.find?_eq_some_iff.2 hj]
      exact hrest _

/-- Rows with one primary key for each table, whose foreign keys link only such tables, make a
graph. -/
theorem exists_ofRows (rows : List Row) (schema : String) (directed : Bool)
    (hnodup : ((primaryTables rows).map Table.name).Nodup)
    (hends : ∀ row ∈ rows, ∀ name ∈ row.ends, name ∈ (primaryTables rows).map Table.name) :
    ∃ g, ofRows rows schema directed = .ok g := by
  obtain ⟨tables, htables⟩ := TableList.exists_ofTables hnodup
  have hperm := TableList.perm_of_ofTables htables
  have hfound : ∀ row ∈ rows, ∀ name ∈ row.ends, ∃ i, (tables.get i).name = name := by
    intro row hrow name hname
    obtain ⟨t, ht, rfl⟩ := List.mem_map.1 (hends row hrow name hname)
    obtain ⟨i, rfl⟩ := TableList.mem_toList_iff.1 (hperm.mem_iff.2 ht)
    exact ⟨i, rfl⟩
  obtain ⟨links, hlinks⟩ := exists_enterRows directed (.empty tables.size) hfound
  refine ⟨⟨schema, directed, tables, links⟩, ?_⟩
  rw [ofRows, htables]
  dsimp only
  rw [hlinks]

/-- Two tables that refer to each other, one of them also to itself. -/
def mutualRows : List Row :=
  [.primary "b" "id", .foreign "a" "x" "b" "id", .foreign "a" "up" "a" "id",
    .primary "a" "id", .foreign "b" "y" "a" "id"]

theorem exists_ofRows_mutualRows :
    ∃ g, ofRows mutualRows "s" false = .ok g ∧ g.schema = "s" ∧
      "a" ∈ g.tableNames ∧ "b" ∈ g.tableNames ∧
        g.table? "a" = some ⟨"a", "id"⟩ ∧ g.table? "b" = some ⟨"b", "id"⟩ ∧
          g.linkage? "a" "b" = .ok (some ⟨"id", "y"⟩) := by
  obtain ⟨g, hg⟩ := exists_ofRows mutualRows "s" false (by decide) (by decide)
  have ha : "a" ∈ g.tableNames := (mem_tableNames_ofRows hg).2 ⟨"id", by decide⟩
  have hb : "b" ∈ g.tableNames := (mem_tableNames_ofRows hg).2 ⟨"id", by decide⟩
  refine ⟨g, hg, schema_ofRows hg, ha, hb, table?_ofRows hg (by decide),
    table?_ofRows hg (by decide), ?_⟩
  rw [linkage?_ofRows hg ha hb]
  rfl

/-! ## Edges -/

theorem edgeCount_eq_countP (g : JoinGraph) :
    g.edgeCount = (g.tableNames ×ˢ g.tableNames).countP fun p => g.isLinked p.1 p.2 := by
  unfold edgeCount LinkGrid.edgeCount
  rw [LinkGrid.toList_cells, tableNames_eq_map]
  simp only [SProd.sprod, List.product, List.flatMap_map, List.map_map, List.countP_flatMap,
    List.countP_map, Function.comp_def, isLinked_name_get]

/-! ## Content -/

/-- The content of a graph that was built from some rows. -/
theorem content_of_ofRows (h : ofRows rows schema directed = .ok g) :
    (g.tableNames.Pairwise Text.ByteLt ∧
      ∀ name, name ∈ g.tableNames ↔ ∃ column, .primary name column ∈ rows) ∧
    (∀ name, (g.table? name).isSome ↔ ∃ column, .primary name column ∈ rows) ∧
    (∀ name t, g.table? name = some t →
      t.name = name ∧ rows.filter (Row.isPrimaryOf name) = [.primary name t.key]) ∧
    (∀ source ∈ g.tableNames, ∀ target ∈ g.tableNames,
      (directed = true → g.linkage? source target =
        .ok (rows.filterMap (Row.linkageFrom? source target)).getLast?) ∧
      (directed = false → source ≠ target → g.linkage? source target =
        .ok (rows.filterMap (Row.linkageBetween? source target)).getLast?) ∧
      g.linkage? source source =
        .ok (rows.filterMap (Row.linkageFrom? source source)).getLast?) ∧
    g.edgeCount = (g.tableNames ×ˢ g.tableNames).countP fun p => g.isLinked p.1 p.2 := by
  refine ⟨⟨g.pairwise_tableNames, fun name => mem_tableNames_ofRows h⟩, fun name => ?_,
    fun name t ht => ?_, fun source hs target ht => ⟨fun hd => ?_, fun hd _ => ?_, ?_⟩,
    g.edgeCount_eq_countP⟩
  · rw [← mem_tableNames_ofRows h, mem_tableNames_iff, table?, Option.isSome_map,
      Option.isSome_iff_exists]
    exact exists_congr fun i => TableList.find?_eq_some_iff
  · obtain ⟨hmem, rfl⟩ := table?_eq_some_iff.1 ht
    exact ⟨rfl, filter_isPrimaryOf_ofRows h hmem⟩
  · rw [linkage?_ofRows h hs ht, hd]
    rfl
  · rw [linkage?_ofRows h hs ht, hd]
    rfl
  · rw [linkage?_ofRows h hs hs]
    congr 2
    exact List.filterMap_congr fun row _ => Row.linkageIn?_self directed source row

/-- Of two foreign keys between the same tables the later one is followed, both ways. -/
theorem content_of_mutualRows :
    ∃ g, ofRows mutualRows "s" false = .ok g ∧
      g.linkage? "a" "b" = .ok (some ⟨"id", "y"⟩) ∧
        g.linkage? "b" "a" = .ok (some ⟨"y", "id"⟩) ∧
          g.linkage? "a" "a" = .ok (some ⟨"up", "id"⟩) := by
  obtain ⟨g, hg⟩ := exists_ofRows mutualRows "s" false (by decide) (by decide)
  obtain ⟨⟨-, hmem⟩, -, -, hlinks, -⟩ := content_of_ofRows hg
  have ha : "a" ∈ g.tableNames := (hmem "a").2 ⟨"id", by decide⟩
  have hb : "b" ∈ g.tableNames := (hmem "b").2 ⟨"id", by decide⟩
  refine ⟨g, hg, ?_, ?_, ?_⟩
  · rw [(hlinks "a" ha "b" hb).2.1 rfl (by decide)]
    rfl
  · rw [(hlinks "b" hb "a" ha).2.1 rfl (by decide)]
    rfl
  · rw [(hlinks "a" ha "a" ha).2.2]
    rfl

end JoinGraph

end JoinPaths
