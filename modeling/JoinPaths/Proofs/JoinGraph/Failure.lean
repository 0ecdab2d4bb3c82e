import JoinPaths.Catalog.Listing
import JoinPaths.Proofs.JoinGraph.Outcome
import JoinPaths.Proofs.TableList.Repeat

/-!
# Which failure is reported

There may be several reasons why rows make no graph, and one of them is reported. Several primary
keys of a table come first, whatever the foreign keys are, and of such tables the smallest one is
named. Otherwise the first foreign key is named that has an end without primary key. Both are said
here of the rows alone: which rows are primary keys of a table (`IsRepeated`), and which ends have
one (`Resolves`).

1. The names of the tables are counted by counting primary keys (`count_map_name_primaryTables`), so
   that the reason why there is no table list is the smallest repeated table
   (`TableList.ofTables_eq_error_iff`).
2. A name stands in the table list exactly if it has a primary key, so the first unresolved
   reference is read off the rows (`exists_append_of_firstUnresolved?`).
3. A catalog only lists the rows (`ofRows_reports`).
-/

namespace JoinPaths

open Catalog (Row)

namespace Catalog.Row

/-- Whether several of some rows are primary keys of a table. -/
def IsRepeated (rows : List Row) (name : String) : Prop :=
  2 ≤ (rows.filter (isPrimaryOf name)).length

instance (rows : List Row) (name : String) : Decidable (IsRepeated rows name) :=
  inferInstanceAs (Decidable (2 ≤ _))

/-- Whether every end of a row has a primary key among some rows. -/
def Resolves (rows : List Row) (row : Row) : Prop :=
  ∀ name ∈ row.ends, ∃ column, primary name column ∈ rows

end Catalog.Row

namespace JoinGraph

variable {rows : List Row} {tables : TableList} {name source target : String}

/-! ## Repeated tables -/

theorem count_map_name_primaryTables (rows : List Row) (name : String) :
    ((primaryTables rows).map Table.name).count name =
      (rows.filter (Row.isPrimaryOf name)).length := by
  rw [filter_isPrimaryOf, List.length_map, List.count, List.countP_map,
    List.countP_eq_length_filter]
  rfl

theorem mem_map_name_of_isRepeated (h : Row.IsRepeated rows name) :
    name ∈ (primaryTables rows).map Table.name := by
  rw [← List.count_pos_iff, count_map_name_primaryTables]
  exact Nat.lt_of_lt_of_le Nat.two_pos h

/-- Rows make no table list because of the smallest table with several primary keys. -/
theorem ofTables_primaryTables_eq_error_iff :
    TableList.ofTables (primaryTables rows) = .error name ↔
      Row.IsRepeated rows name ∧
        ∀ other, Row.IsRepeated rows other → other = name ∨ Text.ByteLt name other := by
  rw [TableList.ofTables_eq_error_iff]
  simp only [count_map_name_primaryTables]
  refine and_congr_right fun _ => forall_congr' fun other => imp_congr_right fun _ => ?_
  rw [Text.byteLt_iff]
  constructor
  · intro hle
    by_contra hor
    obtain ⟨hne, hlt⟩ := not_or.1 hor
    exact hne (String.le_antisymm (String.not_lt.1 hlt) hle)
  · rintro (rfl | hlt)
    · exact String.le_refl _
    · exact String.not_lt.1 (String.lt_asymm hlt)

theorem not_isRepeated_of_nodup (h : ((primaryTables rows).map Table.name).Nodup)
    (name : String) : ¬ Row.IsRepeated rows name := by
  have hcount := List.nodup_iff_count.1 h name
  rw [count_map_name_primaryTables] at hcount
  unfold Row.IsRepeated
  omega

/-! ## Unresolved references -/

theorem exists_name_get_iff (h : TableList.ofTables (primaryTables rows) = .ok tables) :
    (∃ i, (tables.get i).name = name) ↔ ∃ column, .primary name column ∈ rows := by
  have hperm := TableList.perm_of_ofTables h
  constructor
  · rintro ⟨i, rfl⟩
    have hmem := hperm.mem_iff.1 (TableList.mem_toList_iff.2 ⟨i, rfl⟩)
    exact ⟨_, mem_primaryTables_iff.1 hmem⟩
  · rintro ⟨column, hrow⟩
    have hmem : ⟨name, column⟩ ∈ primaryTables rows := mem_primaryTables_iff.2 hrow
    obtain ⟨i, hi⟩ := TableList.mem_toList_iff.1 (hperm.mem_iff.2 hmem)
    exact ⟨i, by rw [hi]⟩

theorem unresolved?_eq_none_iff_resolves
    (h : TableList.ofTables (primaryTables rows) = .ok tables) {row : Row} :
    row.unresolved? tables = none ↔ row.Resolves rows := by
  rw [Row.unresolved?_eq_none_iff]
  exact forall₂_congr fun name _ => exists_name_get_iff h

theorem eq_foreign_of_unresolved? {row : Row}
    (h : row.unresolved? tables = some (source, target)) :
    ∃ column targetColumn, row = .foreign source column target targetColumn := by
  cases row with
  | primary => cases h
  | foreign table column referencedTable referencedColumn =>
    rw [Row.unresolved?] at h
    split at h
    · cases h
    · obtain ⟨rfl, rfl⟩ := Prod.mk.inj (Option.some.inj h)
      exact ⟨column, referencedColumn, rfl⟩

/-- The first foreign key with an end that is no table stands behind rows that resolve. -/
theorem exists_append_of_firstUnresolved?
    (h : TableList.ofTables (primaryTables rows) = .ok tables)
    (hfirst : firstUnresolved? tables rows = some (source, target)) :
    ∃ before column targetColumn after,
      rows = before ++ .foreign source column target targetColumn :: after ∧
        (∀ row ∈ before, row.Resolves rows) ∧
          ¬ (Row.foreign source column target targetColumn).Resolves rows := by
  obtain ⟨before, row, after, hrows, hrow, hbefore⟩ := List.findSome?_eq_some_iff.1 hfirst
  obtain ⟨column, targetColumn, rfl⟩ := eq_foreign_of_unresolved? hrow
  refine ⟨before, column, targetColumn, after, hrows, fun r hr => ?_, ?_⟩
  · exact (unresolved?_eq_none_iff_resolves h).1 (hbefore r hr)
  · rw [← unresolved?_eq_none_iff_resolves h, hrow]
    exact nofun

theorem firstUnresolved?_eq_none_iff_resolves
    (h : TableList.ofTables (primaryTables rows) = .ok tables) :
    firstUnresolved? tables rows = none ↔ ∀ row ∈ rows, row.Resolves rows := by
  unfold firstUnresolved?
  rw [List.findSome?_eq_none_iff]
  exact forall₂_congr fun row _ => unresolved?_eq_none_iff_resolves h

/-! ## Reports -/

/-- What is reported of rows: the smallest table with several primary keys; if there is none, the
first foreign key with an end that has no primary key; and otherwise there is a graph. A catalog
that lists the rows reports the same. -/
theorem ofRows_reports (rows : List Row) (schema : String) (directed : Bool) :
    ((∃ name, Row.IsRepeated rows name) → ∃ name, Row.IsRepeated rows name ∧
      (∀ other, Row.IsRepeated rows other → other = name ∨ Text.ByteLt name other) ∧
        ofRows rows schema directed = .error (.duplicateTable name)) ∧
    ((∀ name, ¬ Row.IsRepeated rows name) → (∃ row ∈ rows, ¬ row.Resolves rows) →
      ∃ before source column target targetColumn after,
        rows = before ++ .foreign source column target targetColumn :: after ∧
          (∀ row ∈ before, row.Resolves rows) ∧
            ¬ (Row.foreign source column target targetColumn).Resolves rows ∧
              ofRows rows schema directed = .error (.unresolvedReference source target)) ∧
    ((∀ name, ¬ Row.IsRepeated rows name) → (∀ row ∈ rows, row.Resolves rows) →
      ∃ g, ofRows rows schema directed = .ok g) ∧
    ∀ c : Catalog, (c.list schema).result = .ok rows →
      (ofCatalog c schema directed).result = ofRows rows schema directed ∧
        ∀ s : Settings, s.schemaName = schema → s.directed = directed →
          (ofSettings c s).result = ofRows rows schema directed := by
  refine ⟨fun ⟨name, hname⟩ => ?_, fun hdistinct ⟨row, hrow, hresolves⟩ => ?_,
    fun hdistinct hresolves => ?_, fun c hlist => ?_⟩
  · cases htables : TableList.ofTables (primaryTables rows) with
    | error first =>
      obtain ⟨hrepeated, hleast⟩ := ofTables_primaryTables_eq_error_iff.1 htables
      exact ⟨first, hrepeated, hleast, ofRows_eq_duplicateTable schema directed htables⟩
    | ok tables =>
      have hnodup := TableList.nodup_of_ofTables htables
      exact absurd hname (not_isRepeated_of_nodup hnodup name)
  · cases htables : TableList.ofTables (primaryTables rows) with
    | error first =>
      exact absurd (ofTables_primaryTables_eq_error_iff.1 htables).1 (hdistinct first)
    | ok tables =>
      cases hfirst : firstUnresolved? tables rows with
      | none =>
        exact absurd ((firstUnresolved?_eq_none_iff_resolves htables).1 hfirst row hrow) hresolves
      | some ends =>
        obtain ⟨source, target⟩ := ends
        obtain ⟨before, column, targetColumn, after, hrows, hbefore, hnot⟩ :=
          exists_append_of_firstUnresolved? htables hfirst
        exact ⟨before, source, column, target, targetColumn, after, hrows, hbefore, hnot,
          ofRows_eq_unresolvedReference schema directed htables hfirst⟩
  · cases htables : TableList.ofTables (primaryTables rows) with
    | error first =>
      exact absurd (ofTables_primaryTables_eq_error_iff.1 htables).1 (hdistinct first)
    | ok tables =>
      obtain ⟨links, -, hg⟩ := exists_ofRows_eq_ok schema directed htables
        ((firstUnresolved?_eq_none_iff_resolves htables).2 hresolves)
      exact ⟨_, hg⟩
  · have hresult : (ofCatalog c schema directed).result = ofRows rows schema directed := by
      unfold ofCatalog
      dsimp only
      rw [hlist]
    refine ⟨hresult, fun s hschema hdirected => ?_⟩
    rw [ofSettings, hschema, hdirected, hresult]

/-- Two tables with two primary keys each, and a foreign key to a table that has none. -/
def repeatedRows : List Row :=
  [.primary "b" "id", .foreign "a" "x" "c" "id", .primary "a" "id", .primary "b" "no",
    .primary "a" "no"]

/-- Two foreign keys, each with an end that has no primary key. -/
def unresolvedRows : List Row :=
  [.foreign "a" "up" "a" "id", .foreign "a" "x" "c" "id", .foreign "d" "y" "a" "id",
    .primary "a" "id"]

/-- Of two repeated tables the smaller one is reported, though it is repeated later and a foreign
key is unresolved; of two unresolved foreign keys the first one is; and rows without either make a
graph. -/
theorem reports_of_rows :
    (ofCatalog (.snapshot repeatedRows) "s" true).result = .error (.duplicateTable "a") ∧
      (ofCatalog (.snapshot unresolvedRows) "s" true).result =
          .error (.unresolvedReference "a" "c") ∧
        ∃ g, ofRows mutualRows "s" true = .ok g ∧
          (ofSettings (.snapshot mutualRows) ⟨"s", true, 1⟩).result = .ok g := by
  obtain ⟨hrepeat, -, -, hcatalog⟩ := ofRows_reports repeatedRows "s" true
  obtain ⟨-, hunresolved, -, hcatalog'⟩ := ofRows_reports unresolvedRows "s" true
  obtain ⟨-, -, hgraph, hsettings⟩ := ofRows_reports mutualRows "s" true
  refine ⟨?_, ?_, ?_⟩
  · obtain ⟨name, hname, hleast, hresult⟩ := hrepeat ⟨"b", by decide⟩
    have hsmallest : ∀ other ∈ (primaryTables repeatedRows).map Table.name,
        ¬ Text.ByteLt other "a" := by decide
    rw [(hcatalog _ rfl).1, hresult]
    rcases hleast "a" (by decide) with rfl | hlt
    · rfl
    · exact absurd hlt (hsmallest name (mem_map_name_of_isRepeated hname))
  · have hc : ∀ column, Row.primary "c" column ∉ unresolvedRows := by
      simp [unresolvedRows]
    have hfirst : ¬ (Row.foreign "a" "x" "c" "id").Resolves unresolvedRows := by
      intro h
      obtain ⟨column, hrow⟩ := h "c" (by decide)
      exact hc column hrow
    obtain ⟨before, source, column, target, targetColumn, after, hrows, hbefore, hnot, hresult⟩ :=
      hunresolved (not_isRepeated_of_nodup (by decide))
        ⟨.foreign "a" "x" "c" "id", by decide, hfirst⟩
    rw [(hcatalog' _ rfl).1, hresult]
    cases before with
    | nil =>
      -- the first foreign key is that of a table to itself
      obtain ⟨hrow, -⟩ := List.cons.inj hrows
      rw [← hrow] at hnot
      exact absurd (fun name hname => ⟨"id", by
        obtain rfl : name = "a" := by simpa [Row.ends] using hname
        decide⟩) hnot
    | cons row before =>
      obtain ⟨-, hrows⟩ := List.cons.inj hrows
      cases before with
      | nil =>
        obtain ⟨hrow, -⟩ := List.cons.inj hrows
        obtain ⟨rfl, -, rfl, -⟩ := Row.foreign.inj hrow
        rfl
      | cons row' before =>
        obtain ⟨rfl, -⟩ := List.cons.inj hrows
        exact absurd (hbefore _ (by simp)) hfirst
  · have hends : ∀ row ∈ mutualRows, ∀ name ∈ row.ends, .primary name "id" ∈ mutualRows := by
      decide
    obtain ⟨g, hg⟩ := hgraph (not_isRepeated_of_nodup (by decide)) fun row hrow name hname =>
      ⟨"id", hends row hrow name hname⟩
    exact ⟨g, hg, by rw [(hsettings _ rfl).2 _ rfl rfl, hg]⟩

end JoinGraph

end JoinPaths
