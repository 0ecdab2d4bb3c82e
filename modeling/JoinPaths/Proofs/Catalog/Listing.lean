import JoinPaths.Catalog.Listing
import JoinPaths.Proofs.Catalog.Snapshot
import JoinPaths.Proofs.JoinGraph.Outcome

/-!
# Snapshots and live catalogs agree

A snapshot is read from the text of a list, a live catalog decodes the values that an executor
answers. If the answer has the items of the list, a graph built from the one is the graph built from
the other, and what keeps the rows of the one from being read keeps the rows of the other from being
read (`ofCatalog_live_agrees`).

1. A list of values is decoded item by item, and the first one that is no row decides
   (`ofJsonAll_eq_ok_iff`, `exists_append_of_ofJsonAll_eq_error`).
2. The text of the list is read as its items are decoded (`parseRows_compact`), so the two catalogs
   list the same rows or fail at the same item.
-/

namespace JoinPaths

open Json (Mismatch)

namespace Catalog

variable {items : List Json} {rows : List Row} {m : Mismatch}

/-! ## Lists of values -/

theorem ofJsonAll_eq_ok_iff :
    Row.ofJsonAll items = .ok rows ↔
      List.Forall₂ (fun v row => Row.ofJson v = .ok row) items rows := by
  induction items generalizing rows with
  | nil =>
    rw [Row.ofJsonAll, Except.ok.injEq, List.forall₂_nil_left_iff]
    exact eq_comm
  | cons v items ih =>
    rw [Row.ofJsonAll, List.forall₂_cons_left_iff]
    cases hv : Row.ofJson v with
    | error m =>
      constructor
      · intro h
        cases h
      · rintro ⟨row, rows, h, -⟩
        cases h
    | ok row =>
      dsimp only
      rw [map_eq_ok_iff]
      constructor
      · rintro ⟨rows, hrows, rfl⟩
        exact ⟨row, rows, rfl, ih.1 hrows, rfl⟩
      · rintro ⟨row', rows, hrow, hrows, rfl⟩
        obtain rfl := Except.ok.inj hrow
        exact ⟨rows, ih.2 hrows, rfl⟩

/-- A list of values is refused because of the first item that is no row. -/
theorem exists_append_of_ofJsonAll_eq_error (h : Row.ofJsonAll items = .error m) :
    ∃ before v after, items = before ++ v :: after ∧
      (∀ w ∈ before, ∃ row, Row.ofJson w = .ok row) ∧ Row.ofJson v = .error m := by
  induction items with
  | nil => cases h
  | cons v items ih =>
    rw [Row.ofJsonAll] at h
    cases hv : Row.ofJson v with
    | error m' =>
      rw [hv] at h
      obtain rfl := Except.error.inj h
      exact ⟨[], v, items, rfl, fun w hw => absurd hw List.not_mem_nil, hv⟩
    | ok row =>
      rw [hv] at h
      cases hrest : Row.ofJsonAll items with
      | error m' =>
        rw [hrest] at h
        obtain rfl := Except.error.inj h
        obtain ⟨before, w, after, rfl, hbefore, hw⟩ := ih hrest
        refine ⟨v :: before, w, after, rfl, fun u hu => ?_, hw⟩
        rcases List.mem_cons.1 hu with rfl | hu
        · exact ⟨row, hv⟩
        · exact hbefore u hu
      | ok rows =>
        rw [hrest] at h
        cases h

theorem ofJson_toJson (row : Row) : Row.ofJson row.toJson = .ok row := by
  cases row with
  | primary table column => rfl
  | foreign table column referencedTable referencedColumn => rfl

theorem ofJsonAll_map_toJson (rows : List Row) :
    Row.ofJsonAll (rows.map Row.toJson) = .ok rows := by
  rw [ofJsonAll_eq_ok_iff, List.forall₂_map_left_iff, List.forall₂_same]
  exact fun row _ => ofJson_toJson row

theorem isExact_toJson (row : Row) : row.toJson.IsExact 1 := by
  cases row with
  | primary table column => exact .object_of_strings (by simp [kindField]) (by simp)
  | foreign table column referencedTable referencedColumn =>
    exact .object_of_strings (by simp [kindField]) (by simp)

end Catalog

namespace JoinGraph

open Catalog (Row listingCall parseRows constraintsQuery)

variable {items : List Json} {executor : Executor} {schema : String}

/-! ## Catalogs -/

/-- Rows make a graph, or there is a table with several primary keys, or a foreign key with an end
that is no table. -/
theorem ofRows_outcome (rows : List Row) (schema : String) (directed : Bool) :
    (∃ g, ofRows rows schema directed = .ok g) ∨
      (∃ table, ofRows rows schema directed = .error (.duplicateTable table)) ∨
        ∃ source target,
          ofRows rows schema directed = .error (.unresolvedReference source target) := by
  cases htables : TableList.ofTables (primaryTables rows) with
  | error table => exact .inr (.inl ⟨table, ofRows_eq_duplicateTable schema directed htables⟩)
  | ok tables =>
    cases hfirst : firstUnresolved? tables rows with
    | none =>
      obtain ⟨links, -, hg⟩ := exists_ofRows_eq_ok schema directed htables hfirst
      exact .inl ⟨_, hg⟩
    | some ends =>
      exact .inr (.inr ⟨_, _, ofRows_eq_unresolvedReference schema directed htables hfirst⟩)

theorem result_ofCatalog_live (directed : Bool)
    (h : executor [] (listingCall schema) = .ok items) :
    (ofCatalog (.live executor) schema directed).result =
      match Row.ofJsonAll items with
      | .error m => .error (.catalog schema (.undecodable m))
      | .ok rows => ofRows rows schema directed := by
  unfold ofCatalog Catalog.list
  dsimp only
  rw [h]
  dsimp only
  cases Row.ofJsonAll items with
  | error m => rfl
  | ok rows => rfl

/-- A graph is built alike from the text of a list of exact values and from an executor that answers
with the items of the list, after the catalog query as its only call: both are built from the same
rows, or both fail at the first item that is no row, and the message of the live catalog ends with
what is wrong about the item. -/
theorem ofCatalog_live_agrees (hexact : (Json.array items).IsExact 100) (directed : Bool)
    (hanswer : executor [] (listingCall schema) = .ok items) :
    (ofCatalog (.live executor) schema directed).calls = [⟨constraintsQuery, [schema]⟩] ∧
      ((∃ rows, parseRows (Json.compact (.array items)) = .ok rows ∧
          List.Forall₂ (fun v row => Row.ofJson v = .ok row) items rows ∧
          (ofCatalog (.live executor) schema directed).result =
            (ofCatalog (.snapshot rows) schema directed).result ∧
          ((∃ g, (ofCatalog (.snapshot rows) schema directed).result = .ok g) ∨
            (∃ table, (ofCatalog (.snapshot rows) schema directed).result =
              .error (.duplicateTable table)) ∨
            ∃ source target, (ofCatalog (.snapshot rows) schema directed).result =
              .error (.unresolvedReference source target))) ∨
        ∃ before v after m, items = before ++ v :: after ∧
          (∀ w ∈ before, ∃ row, Row.ofJson w = .ok row) ∧ Row.ofJson v = .error m ∧
          parseRows (Json.compact (.array items)) = .error (.mismatch m) ∧
          (ofCatalog (.live executor) schema directed).result =
            .error (.catalog schema (.undecodable m)) ∧
          ∃ front, (Error.catalog schema (.undecodable m)).message = front ++ m.message) := by
  have hparse := Catalog.parseRows_compact (hexact.mono (by decide))
  have hlive := result_ofCatalog_live directed hanswer
  refine ⟨rfl, ?_⟩
  cases hrows : Row.ofJsonAll items with
  | ok rows =>
    rw [hrows] at hparse hlive
    exact .inl ⟨rows, hparse, Catalog.ofJsonAll_eq_ok_iff.1 hrows, hlive,
      ofRows_outcome rows schema directed⟩
  | error m =>
    rw [hrows] at hparse hlive
    obtain ⟨before, v, after, hitems, hbefore, hv⟩ :=
      Catalog.exists_append_of_ofJsonAll_eq_error hrows
    exact .inr ⟨before, v, after, m, hitems, hbefore, hv, hparse, hlive, _, rfl⟩

/-- An executor that answers every call with the same rows. -/
def constantExecutor (items : List Json) : Executor := fun _ _ => .ok items

/-- Two tables that refer to each other make the same graph either way; a number behind their rows
is refused either way. -/
theorem ofCatalog_live_agrees_mutualRows :
    (∃ rows g, parseRows (Json.compact (.array (mutualRows.map Row.toJson))) = .ok rows ∧
        (ofCatalog (.snapshot rows) "s" false).result = .ok g ∧
        (ofCatalog (.live (constantExecutor (mutualRows.map Row.toJson))) "s" false).result =
          .ok g) ∧
      ∃ m, m = .invalidType (.integer 7) Catalog.rowDescription ∧
        parseRows (Json.compact (.array (mutualRows.map Row.toJson ++ [.integer 7]))) =
          .error (.mismatch m) ∧
        (ofCatalog (.live (constantExecutor (mutualRows.map Row.toJson ++ [.integer 7]))) "s"
          false).result = .error (.catalog "s" (.undecodable m)) := by
  have hexact : ∀ v ∈ mutualRows.map Row.toJson ++ [.integer 7], v.IsExact 99 := by
    intro v hv
    rcases List.mem_append.1 hv with hv | hv
    · obtain ⟨row, -, rfl⟩ := List.mem_map.1 hv
      exact (Catalog.isExact_toJson row).mono (by decide)
    · obtain rfl := List.mem_singleton.1 hv
      exact .integer (by decide) (by decide)
  have hdecodes : ∀ v ∈ mutualRows.map Row.toJson, ∀ m, Row.ofJson v ≠ .error m := by
    intro v hv m h
    obtain ⟨row, -, rfl⟩ := List.mem_map.1 hv
    rw [Catalog.ofJson_toJson] at h
    cases h
  obtain ⟨-, hgood⟩ := ofCatalog_live_agrees
    (.array fun v hv => hexact v (List.mem_append_left _ hv)) false
    (show constantExecutor (mutualRows.map Row.toJson) [] (listingCall "s") = _ from rfl)
  obtain ⟨-, hbad⟩ := ofCatalog_live_agrees (.array hexact) false
    (show constantExecutor (mutualRows.map Row.toJson ++ [.integer 7]) [] (listingCall "s") = _
      from rfl)
  constructor
  · rcases hgood with ⟨rows, hparse, hrows, hresult, -⟩ | ⟨before, v, after, m, hitems, -, hv, -⟩
    · have hsame := Catalog.ofJsonAll_eq_ok_iff.2 hrows
      rw [Catalog.ofJsonAll_map_toJson] at hsame
      obtain rfl := Except.ok.inj hsame
      obtain ⟨g, hg, -⟩ := exists_ofRows_mutualRows
      exact ⟨mutualRows, g, hparse, hg, hresult.trans hg⟩
    · exact absurd hv (hdecodes v (by rw [hitems]; simp) m)
  · rcases hbad with ⟨rows, -, hrows, -⟩ | ⟨before, v, after, m, hitems, -, hv, hparse, hresult, -⟩
    · have hsame := Catalog.ofJsonAll_eq_ok_iff.2 hrows
      cases hsame
    · have hmem : v ∈ mutualRows.map Row.toJson ++ [.integer 7] := by
        rw [hitems]
        simp
      rcases List.mem_append.1 hmem with hmem | hmem
      · exact absurd hv (hdecodes v hmem m)
      · obtain rfl := List.mem_singleton.1 hmem
        obtain rfl := Except.error.inj hv
        exact ⟨_, rfl, hparse, hresult⟩

end JoinGraph

end JoinPaths
