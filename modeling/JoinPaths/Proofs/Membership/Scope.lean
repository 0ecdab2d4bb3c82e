import JoinPaths.Proofs.JoinGraph.ExplicitPath
import JoinPaths.Proofs.Membership.Run
import JoinPaths.Proofs.Membership.Statement

/-!
# What the names of a statement mean

The conditions of a membership statement speak of tables: those of the joins with their schema, those
on keys without it. Of a path that a graph offers, each of these names means one table of the
statement, and the one that is intended (`exists_wellScoped_of_offers`).

1. What a search finds or a list of names gives is what the graph carries without a table twice
   (`offers_iff`).
2. The hop with a number is between the tables with this number and the next one
   (`getElem?_segments`), so its join speaks of these two and of no other.
3. Of different tables a name means at most one, and the first table of a path is another one than
   the last (`means_statement`, `start_ne_finish`).
-/

namespace JoinPaths

open Sql (TableRef)

variable {g : JoinGraph} {p : Path} {schema : String}

/-! ## Paths that are offered -/

namespace JoinGraph

/-- Whether a path can be had from a graph: by a search or by its names. -/
inductive Offers (g : JoinGraph) (p : Path) : Prop
  | found {source target : String} {limit : Nat} {paths : List Path}
      (h : g.findPaths source target limit = .ok paths) (hp : p ∈ paths)
  | named {names : List String} (h : g.explicitPath names = .ok p)

theorem offers_iff : g.Offers p ↔ g.Carries p ∧ p.names.Nodup := by
  constructor
  · rintro (⟨h, hp⟩ | h)
    · obtain ⟨hcarries, hchain⟩ := of_mem_findPaths h hp
      exact ⟨hcarries, hchain.nodup⟩
    · obtain ⟨-, rfl, hnodup, hcarries⟩ := explicitPath_eq_ok_iff.1 h
      exact ⟨hcarries, hnodup⟩
  · rintro ⟨hcarries, hnodup⟩
    have hchain := hcarries.isSimpleChain hnodup
    obtain ⟨paths, hpaths, hmem⟩ :=
      exists_findPaths_of_le hchain.source_mem hchain.target_mem le_rfl
    exact .found hpaths ((hmem p).2 ⟨hcarries, hchain⟩)

end JoinGraph

/-! ## Tables and their numbers -/

namespace Path

theorem getElem?_segments {i : Nat} {t u : Table} {l : Linkage}
    (h : p.segments[i]? = some (t, l, u)) : p.tables[i]? = some t ∧ p.tables[i + 1]? = some u := by
  rw [segments_eq_zip, List.getElem?_zip_eq_some] at h
  obtain ⟨ht, h⟩ := h
  obtain ⟨-, hu⟩ := List.getElem?_zip_eq_some.1 h
  rw [List.getElem?_tail] at hu
  exact ⟨ht, hu⟩

theorem getElem?_tables_statement {i : Nat} {t : Table} (h : p.tables[i]? = some t) :
    (p.statement schema).tables[i]? = some ⟨schema, t.name⟩ := by
  rw [tables_statement, names, List.map_map, List.getElem?_map, h]
  rfl

theorem start_ne_finish (hnodup : p.names.Nodup) (hp : p.isTrivial = false) :
    p.start.name ≠ p.finish.name := by
  obtain ⟨start, hops⟩ := p
  rw [names_eq_cons] at hnodup
  cases hops with
  | nil => exact absurd hp (by simp [isTrivial])
  | cons hop hops =>
    intro heq
    apply (List.nodup_cons.1 hnodup).1
    have hlast := (Path.mk start (hop :: hops)).getLast?_names
    rw [names_eq_cons, List.map_cons, List.getLast?_cons_cons] at hlast
    rw [heq]
    exact List.mem_of_getLast? hlast

end Path

/-! ## Names without a schema -/

namespace Sql

/-- Whether a name without its schema means one table of a statement, and no other. -/
def Statement.Means (s : Statement) (name : String) (t : TableRef) : Prop :=
  s.tables.filter (·.table == name) = [t]

end Sql

/-- Of tables with different names, each is meant by its own. -/
theorem Path.means_statement (hnodup : p.names.Nodup) {t : Table} (ht : t ∈ p.tables) :
    (p.statement schema).Means t.name ⟨schema, t.name⟩ := by
  have hname : t.name ∈ p.names := List.mem_map.2 ⟨t, ht, rfl⟩
  unfold Sql.Statement.Means
  rw [tables_statement, List.filter_map]
  show List.map _ (p.names.filter (· == t.name)) = _
  rw [List.filter_beq, List.count_eq_one_of_mem hnodup hname]
  rfl

/-! ## Clear statements -/

namespace JoinGraph

/-- Whether a filter is on the key of one table of a statement. -/
structure FiltersKey (g : JoinGraph) (s : Sql.Statement) (f : Sql.KeyFilter) (t : TableRef) :
    Prop where
  means : s.Means f.table t
  key : g.table? f.table = some ⟨f.table, f.column⟩

/-- Whether a statement introduces the tables of a path, and its conditions are on the right ones. -/
structure WellScoped (g : JoinGraph) (p : Path) (schema : String) (s : Sql.Statement) : Prop where
  /-- The tables are introduced in the order of the path. -/
  introduced : s.tables = p.names.map fun name => ⟨schema, name⟩
  /-- None of them is introduced twice. -/
  once : s.tables.Nodup
  /-- A join is between the table before its own and its own, in the columns of their linkage. -/
  joined : ∀ i j, s.joins[i]? = some j →
    s.tables[i]? = some j.left.owner ∧ s.tables[i + 1]? = some j.table ∧ j.right.owner = j.table ∧
      g.linkage? j.left.owner.table j.right.owner.table =
        .ok (some ⟨j.left.column, j.right.column⟩)
  /-- The filters are on the keys of the first and of the last table, which are different tables. -/
  filtered : ∃ f f' t t', s.filters = [f, f'] ∧ f.parameter = 1 ∧ f'.parameter = 2 ∧
    s.tables.head? = some t ∧ s.tables.getLast? = some t' ∧ t ≠ t' ∧
      g.FiltersKey s f t ∧ g.FiltersKey s f' t'

/-- The statement of what a graph carries without a table twice is clear. -/
theorem wellScoped_statement (hcarries : g.Carries p) (hnodup : p.names.Nodup)
    (hp : p.isTrivial = false) (schema : String) : g.WellScoped p schema (p.statement schema) where
  introduced := Path.tables_statement p schema
  once := by
    rw [Path.tables_statement]
    exact hnodup.map fun name name' h => congrArg TableRef.table h
  joined := by
    intro i j hj
    replace hj : (p.segments.map (Path.joinOf schema))[i]? = some j := hj
    rw [List.getElem?_map] at hj
    obtain ⟨⟨t, l, u⟩, hsegment, rfl⟩ := Option.map_eq_some_iff.1 hj
    obtain ⟨ht, hu⟩ := Path.getElem?_segments hsegment
    exact ⟨Path.getElem?_tables_statement ht, Path.getElem?_tables_statement hu, rfl,
      hcarries.segments _ (List.mem_of_getElem? hsegment)⟩
  filtered := by
    refine ⟨p.filterOf .source 0, p.filterOf .target 1, ⟨schema, p.start.name⟩,
      ⟨schema, p.finish.name⟩, rfl, rfl, rfl, rfl, ?_, ?_, ?_, ?_⟩
    · rw [Path.tables_statement, List.getLast?_map, Path.getLast?_names]
      rfl
    · intro h
      exact Path.start_ne_finish hnodup hp (congrArg TableRef.table h)
    · exact ⟨Path.means_statement hnodup p.start_mem_tables,
        hcarries.tables _ p.start_mem_tables⟩
    · exact ⟨Path.means_statement hnodup p.finish_mem_tables,
        hcarries.tables _ p.finish_mem_tables⟩

/-- The query of a path that is offered and has something to join is read back as a statement that
introduces every table of the path once and is clear about the tables of all its conditions. The
parameter of its first filter is bound to the first key, that of the second one to the second. -/
theorem exists_wellScoped_of_offers (g : JoinGraph) (p : Path) (hoffers : g.Offers p)
    (hp : p.isTrivial = false) (schema : String) :
    ∃ q s, p.query schema = .ok q ∧ Sql.Statement.read? q.statement.text = some s ∧
      g.WellScoped p schema s ∧
        ∀ sourceKey targetKey,
          s.filters.map (fun f => Sql.bound? (q.bind sourceKey targetKey) f.parameter) =
            [some sourceKey, some targetKey] := by
  obtain ⟨hcarries, hnodup⟩ := offers_iff.1 hoffers
  exact ⟨p.membershipQuery schema, p.statement schema, Path.query_eq_ok schema hp,
    Path.read?_text_statement p schema, wellScoped_statement hcarries hnodup hp schema,
    fun _ _ => rfl⟩

/-- Of two tables that refer to each other, the path from one to the other is offered, and its
statement is clear. -/
theorem wellScoped_of_mutualRows :
    ∃ g p q s, ofRows mutualRows "s" false = .ok g ∧ g.explicitPath ["a", "b"] = .ok p ∧
      p.query "s" = .ok q ∧ Sql.Statement.read? q.statement.text = some s ∧
        g.WellScoped p "s" s ∧
          s.filters.map (fun f => Sql.bound? (q.bind "1" "2") f.parameter) =
            [some "1", some "2"] := by
  obtain ⟨g, hg, -, -, -, ha, hb, hlink⟩ := exists_ofRows_mutualRows
  have hp : g.explicitPath ["a", "b"] = .ok ⟨⟨"a", "id"⟩, [(⟨"id", "y"⟩, ⟨"b", "id"⟩)]⟩ :=
    explicitPath_eq_ok_iff.2 ⟨by decide, rfl, by decide, carries_cons_iff.2
      ⟨ha, hlink, carries_nil_iff.2 hb⟩⟩
  obtain ⟨q, s, hq, hs, hscoped, hbound⟩ := exists_wellScoped_of_offers g _ (.named hp) rfl "s"
  exact ⟨g, _, q, s, hg, hp, hq, hs, hscoped, hbound "1" "2"⟩

end JoinGraph

end JoinPaths
