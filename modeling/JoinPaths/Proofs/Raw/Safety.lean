import JoinPaths.Proofs.Raw.Graph

/-!
# Nothing fails inside

Over plain numbers and lists an access can miss its list and a check can fail. In a graph that was
built from rows neither happens, whatever is asked of it (`answers_of_ofRows`): every node is below
the number of tables, every place of a cell is below the number of cells, and every path has one
linkage fewer than tables. For the same question the graph itself gives the same answer, where the
types rule out such failures.

That a path of one table has nothing to join is never reported either. A search leaves such paths
out before their queries are made (`candidates_ne_nothingToJoin`), and a path that is named has two
tables or more (`belongsToVia_ne_nothingToJoin`).
-/

namespace JoinPaths

open Catalog (Row)

/-! ## Paths with nothing to join -/

theorem Executor.ask_ne_nothingToJoin (executor : Executor) (earlier : List Call) (call : Call)
    (table : String) : executor.ask earlier call ≠ .error (.nothingToJoin table) := by
  unfold ask
  split
  · nofun
  · next rows _ =>
    cases readFlag rows with
    | error cause => nofun
    | ok flag => nofun

theorem Executor.tryAll_ne_nothingToJoin (executor : Executor) (sourceKey targetKey : String)
    (earlier : List Call) (queries : List Query) (table : String) :
    (executor.tryAll sourceKey targetKey earlier queries).result ≠
      .error (.nothingToJoin table) := by
  induction queries generalizing earlier with
  | nil => nofun
  | cons q queries ih =>
    by_cases h : executor.ask earlier (q.call sourceKey targetKey) = .ok false
    · rw [tryAll_cons_of_false queries h]
      exact ih _
    · rw [tryAll_cons_of_ne_false queries h]
      exact executor.ask_ne_nothingToJoin _ _ table

namespace JoinGraph

variable {g : JoinGraph} (source target table : String)

theorem node_ne_nothingToJoin (name : String) : g.node name ≠ .error (.nothingToJoin table) := by
  unfold node
  split <;> nofun

theorem findPaths_ne_nothingToJoin (limit : Nat) :
    g.findPaths source target limit ≠ .error (.nothingToJoin table) := by
  intro h
  rcases bind_eq_error_iff.1 h with h | ⟨i, -, h⟩
  · exact node_ne_nothingToJoin table source h
  · exact node_ne_nothingToJoin table target (map_eq_error_iff.1 h)

theorem candidates_ne_nothingToJoin (limit : Nat) :
    g.candidates source target limit ≠ .error (.nothingToJoin table) := by
  cases hpaths : g.findPaths source target limit with
  | ok paths =>
    rw [candidates_eq_ok hpaths]
    nofun
  | error e =>
    rw [candidates_eq_error hpaths]
    intro h
    obtain rfl := Except.error.inj h
    exact findPaths_ne_nothingToJoin source target table limit hpaths

theorem belongsTo_ne_nothingToJoin (executor : Executor) (sourceKey targetKey : String)
    (limit : Nat) :
    (g.belongsTo executor source sourceKey target targetKey limit).result ≠
      .error (.nothingToJoin table) := by
  cases hpaths : g.findPaths source target limit with
  | ok paths =>
    rw [belongsTo_eq_tryAll hpaths]
    exact executor.tryAll_ne_nothingToJoin sourceKey targetKey [] _ table
  | error e =>
    rw [belongsTo_eq_error hpaths]
    intro h
    obtain rfl := Except.error.inj h
    exact findPaths_ne_nothingToJoin source target table limit hpaths

theorem distinctNodes_ne_nothingToJoin (seen : List (Fin g.tables.size)) (names : List String) :
    g.distinctNodes seen names ≠ .error (.nothingToJoin table) := by
  induction names generalizing seen with
  | nil =>
    intro h
    cases h
  | cons name names ih =>
    rw [distinctNodes]
    cases hnode : g.node name with
    | error e =>
      intro h
      obtain rfl := Except.error.inj h
      exact node_ne_nothingToJoin table name hnode
    | ok i =>
      dsimp only
      split
      · intro h
        cases h
      · exact fun h => ih _ (map_eq_error_iff.1 h)

theorem hopsAlong_ne_nothingToJoin (i : Fin g.tables.size) (nodes : List (Fin g.tables.size)) :
    g.hopsAlong i nodes ≠ .error (.nothingToJoin table) := by
  induction nodes generalizing i with
  | nil =>
    intro h
    cases h
  | cons j nodes ih =>
    rw [hopsAlong]
    split
    · intro h
      cases h
    · exact fun h => ih j (map_eq_error_iff.1 h)

theorem explicitPath_ne_nothingToJoin (names : List String) :
    g.explicitPath names ≠ .error (.nothingToJoin table) := by
  unfold explicitPath
  split
  · next first second rest =>
    intro h
    rcases bind_eq_error_iff.1 h with h | ⟨i, -, h⟩
    · exact node_ne_nothingToJoin table first h
    rcases bind_eq_error_iff.1 h with h | ⟨nodes, -, h⟩
    · exact distinctNodes_ne_nothingToJoin table _ _ h
    · exact hopsAlong_ne_nothingToJoin table i nodes (map_eq_error_iff.1 h)
  · nofun

theorem belongsToVia_ne_nothingToJoin (executor : Executor) (names : List String)
    (sourceKey targetKey : String) :
    (g.belongsToVia executor names sourceKey targetKey).result ≠
      .error (.nothingToJoin table) := by
  cases hpath : g.explicitPath names with
  | ok p =>
    rw [belongsToVia_eq hpath (isTrivial_of_explicitPath hpath)]
    exact executor.ask_ne_nothingToJoin _ _ table
  | error e =>
    rw [belongsToVia_eq_error hpath]
    intro h
    obtain rfl := Except.error.inj h
    exact explicitPath_ne_nothingToJoin table names hpath

end JoinGraph

/-! ## Sound data -/

namespace Raw

/-- What the accesses to a graph rely on: the names are sorted, every table is a node of the grid,
and there is a cell for every pair of nodes. -/
structure Graph.IsSound (g : Graph) : Prop where
  sorted : (g.tables.map Table.name).Pairwise Text.ByteLt
  length_tables : g.tables.length = g.grid.side
  length_cells : g.grid.cells.length = g.grid.side * g.grid.side

/-- What the accesses to a path rely on: it has tables, one more than linkages. -/
structure Path.IsSound (p : Path) : Prop where
  tables_ne_nil : p.tables ≠ []
  length_linkages : p.linkages.length + 1 = p.tables.length

namespace Path

variable {p : Path}

theorem isSound_of_new? {tables : List Table} {linkages : List Linkage}
    (h : new? tables linkages = some p) : p.IsSound := by
  unfold new? at h
  split at h
  · next hcheck =>
    obtain rfl := Option.some.inj h
    exact ⟨hcheck.1, hcheck.2⟩
  · cases h

/-- Both ends of a sound path are found, and every linkage is on a hop. -/
theorem IsSound.ends (h : p.IsSound) :
    (∃ t, p.start? = some t) ∧ (∃ t, p.finish? = some t) ∧
      p.hops.map (fun hop => hop.2.1) = p.linkages := by
  have hpos : 0 < p.tables.length := List.length_pos_iff.2 h.tables_ne_nil
  have htail : p.linkages.length = p.tables.tail.length := by
    rw [List.length_tail, ← h.length_linkages]
    rfl
  have hfinish : p.finish? = some p.tables[p.tables.length - 1] := by
    unfold finish?
    rw [lastPlace?_of_ne_nil h.tables_ne_nil]
    exact List.getElem?_eq_getElem _
  refine ⟨⟨_, List.getElem?_eq_getElem hpos⟩, ⟨_, hfinish⟩, ?_⟩
  calc p.hops.map (fun hop => hop.2.1) = (p.hops.map Prod.snd).map Prod.fst := by
        rw [List.map_map]
        rfl
    _ = (p.linkages.zip p.tables.tail).map Prod.fst := by
        unfold hops
        rw [List.map_snd_zip (by
          rw [List.length_zip, List.length_tail]
          omega)]
    _ = p.linkages := List.map_fst_zip (Nat.le_of_eq htail)

end Path

end Raw

theorem Path.isSound_raw (p : Path) : p.raw.IsSound :=
  Raw.Path.isSound_of_new? p.new?_raw

namespace JoinGraph

open Raw.Checked

variable {rows : List Row} {schema : String} {directed : Bool} {g : JoinGraph}

theorem isSound_raw (g : JoinGraph) : g.raw.IsSound where
  sorted := g.pairwise_tableNames
  length_tables := rfl
  length_cells := g.links.length_cells_raw

/-- In a graph that was built from rows nothing fails inside: over plain numbers and lists the same
graph is built, its names are sorted and its grid has a cell for every pair of tables, and every
question has the answer that the graph gives. Every path found or named has one linkage fewer than
tables, and nothing is reported of a path with nothing to join. -/
theorem answers_of_ofRows (h : ofRows rows schema directed = .ok g) :
    Raw.Graph.ofRows? rows schema directed = of (.ok g.raw) ∧ g.raw.IsSound ∧
      (∀ name, g.raw.table? name = some (g.table? name)) ∧
      (∀ source target, g.raw.linkage? source target = of (g.linkage? source target)) ∧
      (∀ source target limit,
        g.raw.findPaths? source target limit =
            of ((g.findPaths source target limit).map (List.map Path.raw)) ∧
          ∀ paths, g.raw.findPaths? source target limit = of (.ok paths) →
            ∀ p ∈ paths, p.IsSound) ∧
      (∀ names,
        g.raw.explicitPath? names = of ((g.explicitPath names).map Path.raw) ∧
          ∀ p, g.raw.explicitPath? names = of (.ok p) → p.IsSound) ∧
      (∀ source target limit,
        g.raw.candidates? source target limit = of (g.candidates source target limit) ∧
          ∀ table, g.candidates source target limit ≠ .error (.nothingToJoin table)) ∧
      (∀ executor source sourceKey target targetKey limit,
        g.raw.belongsTo? executor source sourceKey target targetKey limit =
            some (g.belongsTo executor source sourceKey target targetKey limit) ∧
          ∀ table, (g.belongsTo executor source sourceKey target targetKey limit).result ≠
            .error (.nothingToJoin table)) ∧
      ∀ executor names sourceKey targetKey,
        g.raw.belongsToVia? executor names sourceKey targetKey =
            some (g.belongsToVia executor names sourceKey targetKey) ∧
          ∀ table, (g.belongsToVia executor names sourceKey targetKey).result ≠
            .error (.nothingToJoin table) := by
  refine ⟨?_, g.isSound_raw, g.table?_raw, g.linkage?_raw, fun source target limit => ⟨?_, ?_⟩,
    fun names => ⟨?_, ?_⟩, fun source target limit => ⟨?_, fun table => ?_⟩,
    fun executor source sourceKey target targetKey limit => ⟨?_, fun table => ?_⟩,
    fun executor names sourceKey targetKey => ⟨?_, fun table => ?_⟩⟩
  · rw [ofRows?_raw, h]
    rfl
  · exact g.findPaths?_raw source target limit
  · intro paths hpaths p hp
    rw [findPaths?_raw] at hpaths
    obtain ⟨found, -, rfl⟩ := map_eq_ok_iff.1 (Option.some.inj hpaths)
    obtain ⟨q, -, rfl⟩ := List.mem_map.1 hp
    exact q.isSound_raw
  · exact g.explicitPath?_raw names
  · intro p hp
    rw [explicitPath?_raw] at hp
    obtain ⟨q, -, rfl⟩ := map_eq_ok_iff.1 (Option.some.inj hp)
    exact q.isSound_raw
  · exact g.candidates?_raw source target limit
  · exact candidates_ne_nothingToJoin source target table limit
  · exact g.belongsTo?_raw executor source sourceKey target targetKey limit
  · exact belongsTo_ne_nothingToJoin source target table executor sourceKey targetKey limit
  · exact g.belongsToVia?_raw executor names sourceKey targetKey
  · exact belongsToVia_ne_nothingToJoin table executor names sourceKey targetKey

/-- Two tables that refer to each other: a table and a linkage are looked up, and one name alone is
refused. -/
theorem raw_answers_of_mutualRows :
    ∃ g : JoinGraph, Raw.Graph.ofRows? mutualRows "s" false = of (.ok g.raw) ∧
      g.raw.table? "a" = some (some ⟨"a", "id"⟩) ∧
      g.raw.linkage? "a" "b" = of (.ok (some ⟨"id", "y"⟩)) ∧
      g.raw.explicitPath? ["a"] = of (.error (.invalidPath (.tooShort 1))) := by
  obtain ⟨g, hg, -, -, -, ha, -, hlink⟩ := exists_ofRows_mutualRows
  obtain ⟨hbuild, -, htable, hlinkage, -, hpath, -⟩ := answers_of_ofRows hg
  refine ⟨g, hbuild, ?_, ?_, (hpath ["a"]).1⟩
  · rw [htable, ha]
  · rw [hlinkage, hlink]

end JoinGraph

end JoinPaths
