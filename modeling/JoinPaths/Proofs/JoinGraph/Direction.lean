import JoinPaths.Proofs.JoinGraph.Outcome
import JoinPaths.Proofs.JoinGraph.Paths
import Mathlib.Data.Multiset.Bind

/-!
# Directed and undirected graphs of the same rows

Whether foreign keys are followed one way or both ways does not matter for what goes wrong, nor for
the tables. It matters for the links: the undirected graph has those of the directed one and their
reverses (`IsSymmetricClosure`). Where both graphs link two tables their linkages may differ, since
the last foreign key between the tables may be from either of them.

1. The links and linkages of both graphs are read off the same rows
   (`isSymmetricClosure_ofRows`).
2. So an undirected graph has at most twice as many edges, by counting the ordered pairs of tables
   from both sides (`IsSymmetricClosure.edgeCount_le_two_mul`).
3. Simple chains of the directed graph are simple chains of the undirected one
   (`IsSymmetricClosure.isSimpleChain`), and a search with room for all of them goes along each.
-/

namespace JoinPaths

open Catalog (Row)

/-! ## Counting pairs from both sides -/

section Counting

variable {α : Type}

theorem countP_or_le (p q : α → Bool) (l : List α) :
    l.countP (fun a => p a || q a) ≤ l.countP p + l.countP q := by
  induction l with
  | nil => exact Nat.le_refl 0
  | cons a l ih =>
    simp only [List.countP_cons]
    cases p a <;> cases q a <;> simp <;> omega

theorem countP_swap_product (p : α → α → Bool) (l : List α) :
    (l ×ˢ l).countP (fun e => p e.2 e.1) = (l ×ˢ l).countP fun e => p e.1 e.2 := by
  have hperm : ((l ×ˢ l).map Prod.swap).Perm (l ×ˢ l) := by
    rw [← Multiset.coe_eq_coe, ← Multiset.map_coe, ← Multiset.coe_product,
      Multiset.map_swap_product]
  rw [← hperm.countP_eq fun e => p e.1 e.2, List.countP_map]
  rfl

end Counting

namespace JoinGraph

variable {rows : List Row} {schema : String} {d u : JoinGraph} {source target : String}

/-! ## Taking links both ways -/

theorem tableNames_congr (h : u.tables = d.tables) : u.tableNames = d.tableNames := by
  unfold tableNames
  rw [h]

/-- Whether one graph has the tables of another one and its links, taken both ways. -/
structure IsSymmetricClosure (d u : JoinGraph) : Prop where
  tables : u.tables = d.tables
  isLinked : ∀ source target,
    u.isLinked source target = (d.isLinked source target || d.isLinked target source)
  /-- Every linkage is that of the other graph, or the reverse of the one the other way round. -/
  linkage : ∀ source target, u.linkage? source target = d.linkage? source target ∨
    ∃ m, d.linkage? target source = .ok (some m) ∧
      u.linkage? source target = .ok (some m.reverse)
  /-- The linkage of a table to itself is the same. -/
  loop : ∀ name, u.linkage? name name = d.linkage? name name

namespace IsSymmetricClosure

theorem tableNames_eq (h : d.IsSymmetricClosure u) : u.tableNames = d.tableNames :=
  tableNames_congr h.tables

theorem isLinked_of_isLinked (h : d.IsSymmetricClosure u)
    (hlink : d.isLinked source target = true) : u.isLinked source target = true := by
  rw [h.isLinked, hlink, Bool.true_or]

theorem edgeCount_le (h : d.IsSymmetricClosure u) : d.edgeCount ≤ u.edgeCount := by
  rw [edgeCount_eq_countP, edgeCount_eq_countP, h.tableNames_eq]
  exact List.countP_mono_left fun e _ => h.isLinked_of_isLinked

theorem edgeCount_le_two_mul (h : d.IsSymmetricClosure u) : u.edgeCount ≤ 2 * d.edgeCount := by
  let pairs := d.tableNames ×ˢ d.tableNames
  have hd : d.edgeCount = pairs.countP fun e => d.isLinked e.1 e.2 := d.edgeCount_eq_countP
  calc u.edgeCount
      = pairs.countP fun e => d.isLinked e.1 e.2 || d.isLinked e.2 e.1 := by
        rw [edgeCount_eq_countP, h.tableNames_eq]
        exact congrArg (List.countP · pairs) (funext fun e => h.isLinked e.1 e.2)
    _ ≤ pairs.countP (fun e => d.isLinked e.1 e.2) +
          pairs.countP fun e => d.isLinked e.2 e.1 := countP_or_le _ _ _
    _ = d.edgeCount + d.edgeCount := by rw [countP_swap_product d.isLinked, ← hd]
    _ = 2 * d.edgeCount := (Nat.two_mul _).symm

theorem isSimpleChain (h : d.IsSymmetricClosure u) {names : List String}
    (hchain : d.IsSimpleChain source target names) : u.IsSimpleChain source target names where
  known := fun name hname => h.tableNames_eq ▸ hchain.known name hname
  head := hchain.head
  last := hchain.last
  nodup := hchain.nodup
  linked := hchain.linked.imp fun _ _ => h.isLinked_of_isLinked

theorem exists_findPaths (h : d.IsSymmetricClosure u) {limit limit' : Nat} {paths : List Path}
    (hfind : d.findPaths source target limit = .ok paths)
    (hlimit : (u.simpleChains source target).length ≤ limit') :
    ∃ paths', u.findPaths source target limit' = .ok paths' ∧
      ∀ p ∈ paths, ∃ q ∈ paths', q.names = p.names := by
  obtain ⟨hs, ht⟩ := mem_tableNames_of_findPaths hfind
  rw [← h.tableNames_eq] at hs ht
  obtain ⟨paths', hfind', -⟩ := exists_findPaths_of_le hs ht hlimit
  refine ⟨paths', hfind', fun p hp => ?_⟩
  have hchain := h.isSimpleChain (of_mem_findPaths hfind hp).2
  exact List.mem_map.1 ((mem_map_names_findPaths hfind' hlimit).2 hchain)

end IsSymmetricClosure

/-! ## Graphs of rows -/

theorem getLast?_filterMap_eq_some_iff {f : Row → Option Linkage} {l : Linkage} :
    (rows.filterMap f).getLast? = some l ↔
      ∃ before row after, rows = before ++ row :: after ∧ f row = some l ∧
        ∀ r ∈ after, f r = none := by
  rw [List.getLast?_filterMap, List.findSome?_eq_some_iff]
  constructor
  · rintro ⟨after, row, before, hrows, hrow, hafter⟩
    refine ⟨before.reverse, row, after.reverse, ?_, hrow, fun r hr =>
      hafter r (List.mem_reverse.1 hr)⟩
    rw [← List.reverse_reverse rows, hrows]
    simp
  · rintro ⟨before, row, after, rfl, hrow, hafter⟩
    refine ⟨after.reverse, row, before.reverse, ?_, hrow, fun r hr =>
      hafter r (List.mem_reverse.1 hr)⟩
    simp

/-- The last foreign key between two tables is the last one from the one to the other, or the last
one the other way round; and there is none if there is none of either. -/
theorem getLast?_linkageBetween? (rows : List Row) (source target : String) :
    (rows.filterMap (Row.linkageBetween? source target)).getLast? =
        (rows.filterMap (Row.linkageFrom? source target)).getLast? ∨
      ∃ m, (rows.filterMap (Row.linkageFrom? target source)).getLast? = some m ∧
        (rows.filterMap (Row.linkageBetween? source target)).getLast? = some m.reverse := by
  -- a row that is not between the tables is from neither of them to the other one
  have hsilent : ∀ r : Row, r.linkageBetween? source target = none →
      r.linkageFrom? source target = none ∧ r.linkageFrom? target source = none := by
    intro r hr
    rw [Row.linkageBetween?, Option.or_eq_none_iff, Option.map_eq_none_iff] at hr
    exact hr
  cases hlast : (rows.filterMap (Row.linkageBetween? source target)).getLast? with
  | none =>
    rw [List.getLast?_eq_none_iff, List.filterMap_eq_nil_iff] at hlast
    refine Or.inl (List.getLast?_eq_none_iff.2 (List.filterMap_eq_nil_iff.2 ?_)).symm
    exact fun r hr => (hsilent r (hlast r hr)).1
  | some l =>
    obtain ⟨before, row, after, hrows, hrow, hafter⟩ := getLast?_filterMap_eq_some_iff.1 hlast
    rw [Row.linkageBetween?, Option.or_eq_some_iff, Option.map_eq_some_iff] at hrow
    rcases hrow with hrow | ⟨-, m, hrow, rfl⟩
    · exact Or.inl (getLast?_filterMap_eq_some_iff.2
        ⟨before, row, after, hrows, hrow, fun r hr => (hsilent r (hafter r hr)).1⟩).symm
    · exact Or.inr ⟨m, getLast?_filterMap_eq_some_iff.2
        ⟨before, row, after, hrows, hrow, fun r hr => (hsilent r (hafter r hr)).2⟩, rfl⟩

/-- Graphs with the same tables refuse to tell a linkage for the same unknown name. -/
theorem linkage?_eq_of_unknown (htables : u.tables = d.tables)
    (h : ¬ (source ∈ d.tableNames ∧ target ∈ d.tableNames)) :
    u.linkage? source target = d.linkage? source target := by
  have hnames : u.tableNames = d.tableNames := tableNames_congr htables
  unfold linkage?
  by_cases hs : source ∈ d.tableNames
  · have ht : target ∉ d.tableNames := fun ht => h ⟨hs, ht⟩
    obtain ⟨i, rfl⟩ := mem_tableNames_iff.1 hs
    obtain ⟨j, hj⟩ := mem_tableNames_iff.1 (hnames ▸ hs)
    rw [node_name_get, ← hj, node_name_get, node_eq_error ht, node_eq_error (hnames ▸ ht)]
    rfl
  · rw [node_eq_error hs, node_eq_error (hnames ▸ hs)]
    rfl

/-- The undirected graph of some rows has the links of the directed one, taken both ways. -/
theorem isSymmetricClosure_ofRows (hd : ofRows rows schema true = .ok d)
    (hu : ofRows rows schema false = .ok u) (htables : u.tables = d.tables) :
    d.IsSymmetricClosure u := by
  have hnames : u.tableNames = d.tableNames := tableNames_congr htables
  refine ⟨htables, fun source target => ?_, fun source target => ?_, fun name => ?_⟩
  · rw [Bool.eq_iff_iff, Bool.or_eq_true, isLinked_ofRows hu, isLinked_ofRows hd,
      isLinked_ofRows hd]
    simp only [Row.isBetween, Bool.not_true, Bool.not_false, Bool.false_and, Bool.true_and,
      Bool.or_false, Bool.or_eq_true, and_or_left, exists_or]
  · by_cases hknown : source ∈ d.tableNames ∧ target ∈ d.tableNames
    · obtain ⟨hs, ht⟩ := hknown
      rw [linkage?_ofRows hu (hnames ▸ hs) (hnames ▸ ht), linkage?_ofRows hd hs ht,
        linkage?_ofRows hd ht hs]
      refine (getLast?_linkageBetween? rows source target).imp (congrArg Except.ok) ?_
      rintro ⟨m, hm, hreverse⟩
      exact ⟨m, congrArg Except.ok hm, congrArg Except.ok hreverse⟩
    · exact Or.inl (linkage?_eq_of_unknown htables hknown)
  · by_cases hname : name ∈ d.tableNames
    · rw [linkage?_ofRows hu (hnames ▸ hname) (hnames ▸ hname), linkage?_ofRows hd hname hname]
      congr 2
      exact List.filterMap_congr fun row _ =>
        (row.linkageIn?_self false name).trans (row.linkageIn?_self true name).symm
    · exact linkage?_eq_of_unknown htables fun h => hname h.1

/-- Rows make no graph for one reason, whether foreign keys are followed one way or both ways; if
they make one, they make both, and the undirected graph has the same tables and the links of the
directed one, taken both ways. So its edges are as many at least and twice as many at most, and
every path that is found in the directed graph is found in it along the same tables. -/
theorem ofRows_either_direction (rows : List Row) (schema : String) :
    (∃ e, ofRows rows schema true = .error e ∧ ofRows rows schema false = .error e) ∨
    ∃ d u, ofRows rows schema true = .ok d ∧ ofRows rows schema false = .ok u ∧
      d.IsSymmetricClosure u ∧
      (d.edgeCount ≤ u.edgeCount ∧ u.edgeCount ≤ 2 * d.edgeCount) ∧
      ∀ source target limit limit' paths, d.findPaths source target limit = .ok paths →
        (u.simpleChains source target).length ≤ limit' →
          ∃ paths', u.findPaths source target limit' = .ok paths' ∧
            ∀ p ∈ paths, ∃ q ∈ paths', q.names = p.names := by
  cases htables : TableList.ofTables (primaryTables rows) with
  | error name =>
    exact Or.inl ⟨_, ofRows_eq_duplicateTable schema true htables,
      ofRows_eq_duplicateTable schema false htables⟩
  | ok tables =>
    cases hfirst : firstUnresolved? tables rows with
    | some ends =>
      exact Or.inl ⟨_, ofRows_eq_unresolvedReference schema true htables hfirst,
        ofRows_eq_unresolvedReference schema false htables hfirst⟩
    | none =>
      obtain ⟨links, -, hd⟩ := exists_ofRows_eq_ok schema true htables hfirst
      obtain ⟨links', -, hu⟩ := exists_ofRows_eq_ok schema false htables hfirst
      have hclosure := isSymmetricClosure_ofRows hd hu rfl
      exact Or.inr ⟨_, _, hd, hu, hclosure, ⟨hclosure.edgeCount_le, hclosure.edgeCount_le_two_mul⟩,
        fun _ _ _ _ _ hfind hlimit => hclosure.exists_findPaths hfind hlimit⟩

/-- Of two tables that refer to each other, the first one is linked through its own foreign key in
the directed graph, and in the undirected one through the later key of the other table, reversed. -/
theorem mutualRows_either_direction :
    ∃ d u, ofRows mutualRows "s" true = .ok d ∧ ofRows mutualRows "s" false = .ok u ∧
      d.linkage? "a" "b" = .ok (some ⟨"x", "id"⟩) ∧ u.linkage? "a" "b" = .ok (some ⟨"id", "y"⟩) ∧
      u.edgeCount ≤ 2 * d.edgeCount ∧
      ∃ paths paths', d.findPaths "a" "b" 1 = .ok paths ∧
        u.findPaths "a" "b" (u.simpleChains "a" "b").length = .ok paths' ∧
          ∀ p ∈ paths, ∃ q ∈ paths', q.names = p.names := by
  obtain ⟨g, hg⟩ := exists_ofRows mutualRows "s" true (by decide) (by decide)
  rcases ofRows_either_direction mutualRows "s" with
    ⟨e, he, -⟩ | ⟨d, u, hd, hu, hclosure, hcount, hpaths⟩
  · rw [hg] at he
    cases he
  · have ha : "a" ∈ d.tableNames := (mem_tableNames_ofRows hd).2 ⟨"id", by decide⟩
    have hb : "b" ∈ d.tableNames := (mem_tableNames_ofRows hd).2 ⟨"id", by decide⟩
    obtain ⟨all, -, -, hfind⟩ := exists_findPaths ha hb
    obtain ⟨paths', hfind', hnames⟩ := hpaths "a" "b" 1 _ _ (hfind 1) le_rfl
    refine ⟨d, u, hd, hu, ?_, ?_, hcount.2, _, paths', hfind 1, hfind', hnames⟩
    · rw [linkage?_ofRows hd ha hb]
      rfl
    · rw [← hclosure.tableNames_eq] at ha hb
      rw [linkage?_ofRows hu ha hb]
      rfl

end JoinGraph

end JoinPaths
