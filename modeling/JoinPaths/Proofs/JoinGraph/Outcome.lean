import JoinPaths.Proofs.Except
import JoinPaths.Proofs.JoinGraph.Build

/-!
# What comes of rows

Rows make no graph if a table has several primary keys, or else if a foreign key has an end that is
no table. Both are known before any linkage is entered: entering stops at the first foreign key with
such an end, whatever was entered before it and in whichever direction (`enterRows_eq_error`). So
there are three cases, told apart by the tables and by `firstUnresolved?` alone
(`ofRows_eq_duplicateTable`, `ofRows_eq_unresolvedReference`, `exists_ofRows_eq_ok`).

If there is a graph, its tables include the ends of all foreign keys, and two of them are linked
exactly if a foreign key is between them (`isLinked_ofRows`).
-/

namespace JoinPaths

open Catalog (Row)

namespace Catalog.Row

/-- The ends of a foreign key, if one of them is no table. -/
def unresolved? (tables : TableList) : Row → Option (String × String)
  | primary .. => none
  | foreign table _ referencedTable _ =>
    if (tables.find? table).isSome ∧ (tables.find? referencedTable).isSome then none
    else some (table, referencedTable)

theorem isSome_find?_iff {tables : TableList} {name : String} :
    (tables.find? name).isSome ↔ ∃ i, (tables.get i).name = name := by
  rw [Option.isSome_iff_exists]
  exact exists_congr fun i => TableList.find?_eq_some_iff

theorem unresolved?_eq_none_iff {tables : TableList} {row : Row} :
    row.unresolved? tables = none ↔ ∀ name ∈ row.ends, ∃ i, (tables.get i).name = name := by
  cases row with
  | primary => exact ⟨fun _ _ hname => absurd hname List.not_mem_nil, fun _ => rfl⟩
  | foreign table column referencedTable referencedColumn =>
    rw [unresolved?, ends, List.forall_mem_cons, List.forall_mem_singleton, ← isSome_find?_iff,
      ← isSome_find?_iff]
    split <;> simp_all

/-- Whether a row is a foreign key from one table to another, or, where foreign keys are followed
both ways, from the other one to the first. -/
def isBetween (directed : Bool) (source target : String) (row : Row) : Bool :=
  row.ends == [source, target] || (!directed && row.ends == [target, source])

theorem isSome_linkageFrom? (source target : String) (row : Row) :
    (row.linkageFrom? source target).isSome = (row.ends == [source, target]) := by
  cases row with
  | primary => rfl
  | foreign table column referencedTable referencedColumn =>
    rw [linkageFrom?, ends]
    by_cases h : table = source ∧ referencedTable = target
    · rw [if_pos h, h.1, h.2, beq_self_eq_true, Option.isSome_some]
    · have hne : [table, referencedTable] ≠ [source, target] := by
        intro e
        obtain ⟨hs, ht⟩ := List.cons.inj e
        exact h ⟨hs, List.singleton_inj.1 ht⟩
      rw [if_neg h, Option.isSome_none, beq_eq_false_iff_ne.2 hne]

theorem isSome_linkageIn? (directed : Bool) (source target : String) (row : Row) :
    (row.linkageIn? directed source target).isSome = row.isBetween directed source target := by
  unfold isBetween
  rw [← isSome_linkageFrom?, ← isSome_linkageFrom?]
  cases directed with
  | true =>
    rw [Bool.not_true, Bool.false_and, Bool.or_false]
    rfl
  | false =>
    show (row.linkageBetween? source target).isSome = _
    rw [linkageBetween?, Option.isSome_or, Option.isSome_map, Bool.not_false, Bool.true_and]

theorem mem_ends_of_isBetween {directed : Bool} {source target : String} {row : Row}
    (h : row.isBetween directed source target = true) :
    source ∈ row.ends ∧ target ∈ row.ends := by
  simp only [isBetween, Bool.or_eq_true, Bool.and_eq_true, beq_iff_eq] at h
  rcases h with h | ⟨-, h⟩ <;> simp [h]

end Catalog.Row

namespace JoinGraph

variable {rows : List Row} {schema : String} {directed : Bool} {tables : TableList}

/-- The ends of the first foreign key of which one is no table. -/
def firstUnresolved? (tables : TableList) (rows : List Row) : Option (String × String) :=
  rows.findSome? (Row.unresolved? tables)

theorem firstUnresolved?_eq_none_iff : firstUnresolved? tables rows = none ↔
    ∀ row ∈ rows, ∀ name ∈ row.ends, ∃ i, (tables.get i).name = name := by
  unfold firstUnresolved?
  rw [List.findSome?_eq_none_iff]
  exact forall₂_congr fun row _ => Row.unresolved?_eq_none_iff

theorem enterRows_eq_error {source target : String} (directed : Bool)
    (links : LinkGrid tables.size)
    (h : firstUnresolved? tables rows = some (source, target)) :
    enterRows tables directed links rows = .error (.unresolvedReference source target) := by
  induction rows generalizing links with
  | nil => cases h
  | cons row rows ih =>
    rw [firstUnresolved?, List.findSome?_cons] at h
    cases row with
    | primary table column => exact ih links h
    | foreign table column referencedTable referencedColumn =>
      rw [Row.unresolved?] at h
      rw [enterRows]
      cases hi : tables.find? table with
      | none =>
        rw [hi] at h
        obtain ⟨rfl, rfl⟩ := Prod.mk.inj (Option.some.inj h)
        rfl
      | some i =>
        cases hj : tables.find? referencedTable with
        | none =>
          rw [hi, hj] at h
          obtain ⟨rfl, rfl⟩ := Prod.mk.inj (Option.some.inj h)
          rfl
        | some j =>
          rw [hi, hj] at h
          exact ih _ h

/-! ## The three cases -/

/-- Several primary keys of a table decide, whatever the foreign keys are. -/
theorem ofRows_eq_duplicateTable {name : String} (schema : String) (directed : Bool)
    (h : TableList.ofTables (primaryTables rows) = .error name) :
    ofRows rows schema directed = .error (.duplicateTable name) := by
  unfold ofRows
  rw [h]

/-- If every table has one primary key, the first foreign key with an end that is no table
decides. -/
theorem ofRows_eq_unresolvedReference {source target : String} (schema : String)
    (directed : Bool) (h : TableList.ofTables (primaryTables rows) = .ok tables)
    (hfirst : firstUnresolved? tables rows = some (source, target)) :
    ofRows rows schema directed = .error (.unresolvedReference source target) := by
  unfold ofRows
  rw [h]
  dsimp only
  rw [enterRows_eq_error directed _ hfirst]

theorem exists_ofRows_eq_ok (schema : String) (directed : Bool)
    (h : TableList.ofTables (primaryTables rows) = .ok tables)
    (hfirst : firstUnresolved? tables rows = none) :
    ∃ links, enterRows tables directed (.empty _) rows = .ok links ∧
      ofRows rows schema directed = .ok ⟨schema, directed, tables, links⟩ := by
  obtain ⟨links, hlinks⟩ :=
    exists_enterRows directed (.empty tables.size) (firstUnresolved?_eq_none_iff.1 hfirst)
  refine ⟨links, hlinks, ?_⟩
  unfold ofRows
  rw [h]
  dsimp only
  rw [hlinks]

/-! ## Links -/

variable {g : JoinGraph}

theorem mem_tableNames_of_mem_ends (h : ofRows rows schema directed = .ok g) {row : Row}
    (hrow : row ∈ rows) {name : String} (hname : name ∈ row.ends) : name ∈ g.tableNames := by
  have hlinks := (ofRows_cases h).2
  cases hfirst : firstUnresolved? g.tables rows with
  | some ends =>
    rw [enterRows_eq_error directed _ hfirst] at hlinks
    cases hlinks
  | none =>
    exact mem_tableNames_iff.2 (firstUnresolved?_eq_none_iff.1 hfirst row hrow name hname)

theorem mem_tableNames_of_isLinked {source target : String}
    (h : g.isLinked source target = true) :
    source ∈ g.tableNames ∧ target ∈ g.tableNames := by
  obtain ⟨l, hl⟩ := isLinked_iff.1 h
  obtain ⟨i, hi, hl⟩ := bind_eq_ok_iff.1 hl
  obtain ⟨j, hj, -⟩ := map_eq_ok_iff.1 hl
  exact ⟨mem_tableNames_iff.2 ⟨i, node_eq_ok_iff.1 hi⟩,
    mem_tableNames_iff.2 ⟨j, node_eq_ok_iff.1 hj⟩⟩

/-- One table leads to another exactly if a foreign key is between them. -/
theorem isLinked_ofRows (h : ofRows rows schema directed = .ok g) {source target : String} :
    g.isLinked source target = true ↔
      ∃ row ∈ rows, row.isBetween directed source target = true := by
  constructor
  · intro hlinked
    obtain ⟨hs, ht⟩ := mem_tableNames_of_isLinked hlinked
    obtain ⟨l, hl⟩ := isLinked_iff.1 hlinked
    rw [linkage?_ofRows h hs ht, Except.ok.injEq] at hl
    obtain ⟨row, hrow, hsays⟩ := List.mem_filterMap.1 (List.mem_of_getLast? hl)
    refine ⟨row, hrow, ?_⟩
    rw [← Row.isSome_linkageIn?, hsays, Option.isSome_some]
  · rintro ⟨row, hrow, hbetween⟩
    obtain ⟨hs, ht⟩ := Row.mem_ends_of_isBetween hbetween
    have hs := mem_tableNames_of_mem_ends h hrow hs
    have ht := mem_tableNames_of_mem_ends h hrow ht
    rw [← Row.isSome_linkageIn?, Option.isSome_iff_exists] at hbetween
    obtain ⟨l, hl⟩ := hbetween
    have hsays : l ∈ rows.filterMap (Row.linkageIn? directed source target) :=
      List.mem_filterMap.2 ⟨row, hrow, hl⟩
    rw [isLinked_iff, linkage?_ofRows h hs ht,
      List.getLast?_eq_some_getLast (List.ne_nil_of_mem hsays)]
    exact ⟨_, rfl⟩

end JoinGraph

end JoinPaths
