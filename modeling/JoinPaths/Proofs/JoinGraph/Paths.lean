import JoinPaths.JoinGraph.Paths
import JoinPaths.Proofs.Except
import JoinPaths.Proofs.JoinGraph.Build
import JoinPaths.Proofs.JoinGraph.SimpleChain
import JoinPaths.Proofs.Path
import JoinPaths.Proofs.Search.Enumeration
import Mathlib.Data.Set.List

/-!
# The paths of a graph

A graph carries a path if the tables are its own, with their key columns, and every hop is through
its own linkage. Such a path is known by the names of its tables (`Carries.eq_of_names_eq`). The
argument about searches has two steps.

1. The trails through the grid are the paths that the graph carries (`Trail.carries_path`,
   `exists_trail`), and trails in order are paths whose names are in order.
2. So the list of all trails that every search goes through is, by names, the list of all simple
   chains (`exists_findPaths`).
-/

namespace JoinPaths

/-! ## Trails as paths -/

namespace Trail

variable {n : Nat} (table : Fin n → Table)

@[simp] theorem names_path (t : Trail n) :
    (t.path table).names = t.nodes.map fun i => (table i).name := by
  induction t with
  | start i => rfl
  | step t l i ih => rw [path, Path.names_extend, ih, nodes, List.map_append]; rfl

@[simp] theorem start_path (t : Trail n) : (t.path table).start = table t.first := by
  induction t with
  | start i => rfl
  | step t l i ih => exact ih

@[simp] theorem finish_path (t : Trail n) : (t.path table).finish = table t.last := by
  cases t with
  | start i => rfl
  | step t l i => exact Path.finish_extend _ _ _

end Trail

namespace JoinGraph

variable {g : JoinGraph} {source target : String} {p q : Path}

/-! ## Paths that a graph carries -/

/-- Whether a path consists of tables and linkages of a graph. -/
structure Carries (g : JoinGraph) (p : Path) : Prop where
  /-- Every table is the one of the graph, with its key column. -/
  tables : ∀ t ∈ p.tables, g.table? t.name = some t
  /-- Every hop is through the linkage of the graph. -/
  segments : ∀ s ∈ p.segments, g.linkage? s.1.name s.2.2.name = .ok (some s.2.1)

theorem carries_nil_iff {t : Table} : g.Carries ⟨t, []⟩ ↔ g.table? t.name = some t := by
  constructor
  · intro h
    exact h.tables t List.mem_cons_self
  · intro h
    refine ⟨fun u hu => ?_, fun s hs => absurd hs List.not_mem_nil⟩
    rw [List.mem_singleton.1 hu]
    exact h

theorem carries_cons_iff {t u : Table} {l : Linkage} {hops : List (Linkage × Table)} :
    g.Carries ⟨t, (l, u) :: hops⟩ ↔
      g.table? t.name = some t ∧ g.linkage? t.name u.name = .ok (some l) ∧
        g.Carries ⟨u, hops⟩ := by
  constructor
  · intro h
    obtain ⟨ht, hu⟩ := List.forall_mem_cons.1 h.tables
    obtain ⟨hl, hhops⟩ := List.forall_mem_cons.1 h.segments
    exact ⟨ht, hl, hu, hhops⟩
  · rintro ⟨ht, hl, hu, hhops⟩
    exact ⟨List.forall_mem_cons.2 ⟨ht, hu⟩, List.forall_mem_cons.2 ⟨hl, hhops⟩⟩

theorem Carries.extend (h : g.Carries p) {l : Linkage} {t : Table}
    (ht : g.table? t.name = some t) (hl : g.linkage? p.finish.name t.name = .ok (some l)) :
    g.Carries (p.extend l t) := by
  refine ⟨fun u hu => ?_, fun s hs => ?_⟩
  · rw [Path.tables_extend] at hu
    rcases List.mem_append.1 hu with hu | hu
    · exact h.tables u hu
    · rw [List.mem_singleton.1 hu]
      exact ht
  · rw [Path.segments_extend] at hs
    rcases List.mem_append.1 hs with hs | hs
    · exact h.segments s hs
    · rw [List.mem_singleton.1 hs]
      exact hl

theorem Carries.eq_of_names_eq (hp : g.Carries p) (hq : g.Carries q) (h : p.names = q.names) :
    p = q := by
  obtain ⟨t, hops⟩ := p
  obtain ⟨u, hops'⟩ := q
  induction hops generalizing t u hops' with
  | nil =>
    have hlen := congrArg List.length h
    rw [Path.length_names, Path.length_names] at hlen
    obtain rfl := List.length_eq_zero_iff.1 (Nat.succ.inj hlen).symm
    have htu : t.name = u.name := List.singleton_inj.1 h
    have ht := carries_nil_iff.1 hp
    rw [htu, carries_nil_iff.1 hq] at ht
    rw [Option.some.inj ht]
  | cons hop hops ih =>
    obtain ⟨l, t'⟩ := hop
    cases hops' with
    | nil =>
      have hlen := congrArg List.length h
      rw [Path.length_names, Path.length_names] at hlen
      exact absurd (Nat.succ.inj hlen) (Nat.succ_ne_zero _)
    | cons hop' hops' =>
      obtain ⟨m, u'⟩ := hop'
      obtain ⟨ht, hl, hp'⟩ := carries_cons_iff.1 hp
      obtain ⟨hu, hm, hq'⟩ := carries_cons_iff.1 hq
      obtain ⟨htu, hrest⟩ := List.cons.inj h
      have hpq := ih t' hp' u' hops' hq' hrest
      obtain ⟨rfl, rfl⟩ := Path.mk.inj hpq
      rw [htu, hu] at ht
      obtain rfl := Option.some.inj ht
      rw [hm] at hl
      rw [Option.some.inj (Except.ok.inj hl)]

theorem Carries.isSimpleChain (h : g.Carries p) (hnodup : p.names.Nodup) :
    g.IsSimpleChain p.start.name p.finish.name p.names where
  known := by
    intro name hname
    obtain ⟨t, ht, rfl⟩ := List.mem_map.1 hname
    exact mem_tableNames_of_table? (h.tables t ht)
  head := p.head?_names
  last := p.getLast?_names
  nodup := hnodup
  linked := Path.isChain_names fun s hs => isLinked_iff.2 ⟨s.2.1, h.segments s hs⟩

theorem IsSimpleChain.isTrivial_eq_false (h : g.IsSimpleChain source target p.names)
    (hne : source ≠ target) : p.isTrivial = false := by
  rw [← Bool.not_eq_true, p.isTrivial_iff]
  intro hlen
  obtain ⟨name, hname⟩ := List.length_eq_one_iff.1 hlen
  have hhead := h.head
  have hlast := h.last
  rw [hname] at hhead hlast
  exact hne ((Option.some.inj hhead).symm.trans (Option.some.inj hlast))

/-! ## Searching -/

/-- A trail through the grid of a graph is a path of the graph. -/
theorem carries_path {t : Trail g.tables.size} (h : t.Follows g.links) :
    g.Carries (t.path g.tables.get) := by
  induction t with
  | start i => exact carries_nil_iff.2 (table?_name_get i)
  | step t l i ih =>
    refine (ih h.1).extend (table?_name_get i) ?_
    rw [Trail.finish_path, linkage?_name_get, h.2]

theorem nodup_names_path {t : Trail g.tables.size} :
    (t.path g.tables.get).names.Nodup ↔ t.nodes.Nodup := by
  rw [Trail.names_path]
  exact List.nodup_map_iff fun i j hij => TableList.name_get_inj.1 hij

theorem names_path_before {t u : Trail g.tables.size} (h : t.Before u) :
    List.Shortlex Text.ByteLt (t.path g.tables.get).names (u.path g.tables.get).names := by
  rw [Trail.names_path, Trail.names_path]
  exact shortlex_map (fun i j hij => Text.byteLt_iff.2 (TableList.name_get_lt hij)) h

/-- Every simple chain is that of a trail. -/
theorem IsSimpleChain.exists_trail {i j : Fin g.tables.size} {names : List String}
    (h : g.IsSimpleChain (g.tables.get i).name (g.tables.get j).name names) :
    ∃ t : Trail g.tables.size, (t.IsSimple g.links (fun _ => true) i ∧ t.last = j) ∧
      (t.path g.tables.get).names = names := by
  obtain ⟨nodes, rfl⟩ : names ∈ Set.range (List.map fun k => (g.tables.get k).name) := by
    rw [Set.range_list_map]
    exact fun name hname => mem_tableNames_iff.1 (h.known name hname)
  have hne : nodes ≠ [] := by
    rintro rfl
    exact absurd h.head (by simp)
  have hlinked : nodes.IsChain g.links.Linked := by
    refine (List.isChain_map _).1 h.linked |>.imp fun a b hab => ?_
    rw [isLinked_name_get] at hab
    exact hab
  obtain ⟨t, ht, rfl⟩ := Trail.exists_follows hne hlinked
  have hnodup : t.nodes.Nodup := List.Nodup.of_map _ h.nodup
  have hhead := h.head
  have hlast := h.last
  rw [List.head?_map, Trail.head?_nodes, Option.map_some, Option.some.injEq,
    TableList.name_get_inj] at hhead
  rw [List.getLast?_map, Trail.getLast?_nodes, Option.map_some, Option.some.injEq,
    TableList.name_get_inj] at hlast
  exact ⟨t, ⟨⟨hhead, ht, hnodup, fun _ _ => rfl⟩, hlast⟩, t.names_path _⟩

theorem isSimpleChain_path {i : Fin g.tables.size} {t : Trail g.tables.size}
    (h : t.IsSimple g.links (fun _ => true) i) :
    g.IsSimpleChain (g.tables.get i).name (g.tables.get t.last).name
      (t.path g.tables.get).names := by
  have hchain := (carries_path h.follows).isSimpleChain (nodup_names_path.2 h.nodup)
  rwa [Trail.start_path, Trail.finish_path, h.first_eq] at hchain

/-- Searches with any limit go through the same list of paths: they are those of the graph along
the simple chains, in their order. -/
theorem exists_findPaths (hs : source ∈ g.tableNames) (ht : target ∈ g.tableNames) :
    ∃ all : List Path, all.map Path.names = g.simpleChains source target ∧
      (∀ p ∈ all, g.Carries p) ∧
        ∀ limit, g.findPaths source target limit = .ok (all.take limit) := by
  obtain ⟨i, rfl⟩ := mem_tableNames_iff.1 hs
  obtain ⟨j, rfl⟩ := mem_tableNames_iff.1 ht
  obtain ⟨trails, hpairwise, hmem, htake⟩ := g.links.exists_findTrails i j
  refine ⟨trails.map (Trail.path g.tables.get), ?_, fun p hp => ?_, fun limit => ?_⟩
  · have hordered : ((trails.map (Trail.path g.tables.get)).map Path.names).Pairwise
        (List.Shortlex Text.ByteLt) := by
      rw [List.map_map]
      exact List.pairwise_map.2 (hpairwise.imp names_path_before)
    refine eq_of_pairwise_of_mem_iff hordered (g.pairwise_simpleChains _ _) fun names => ?_
    rw [mem_simpleChains, List.map_map, List.mem_map]
    constructor
    · rintro ⟨t, htrail, rfl⟩
      obtain ⟨hsimple, rfl⟩ := (hmem t).1 htrail
      exact isSimpleChain_path hsimple
    · intro h
      obtain ⟨t, htrail, rfl⟩ := h.exists_trail
      exact ⟨t, (hmem t).2 htrail, rfl⟩
  · obtain ⟨t, htrail, rfl⟩ := List.mem_map.1 hp
    exact carries_path ((hmem t).1 htrail).1.follows
  · unfold findPaths
    rw [node_name_get, node_name_get, ← List.map_take, ← htake]
    rfl

theorem mem_iff_of_map_names_eq {all : List Path}
    (hall : all.map Path.names = g.simpleChains source target) (hcarries : ∀ p ∈ all, g.Carries p) :
    p ∈ all ↔ g.Carries p ∧ g.IsSimpleChain source target p.names := by
  rw [← mem_simpleChains, ← hall, List.mem_map]
  constructor
  · intro hp
    exact ⟨hcarries p hp, p, hp, rfl⟩
  · rintro ⟨hp, q, hq, hnames⟩
    rwa [← (hcarries q hq).eq_of_names_eq hp hnames]

theorem IsSimpleChain.exists_carries {names : List String}
    (h : g.IsSimpleChain source target names) : ∃ p, p.names = names ∧ g.Carries p := by
  obtain ⟨all, hall, hcarries, -⟩ := exists_findPaths h.source_mem h.target_mem
  rw [← mem_simpleChains, ← hall] at h
  obtain ⟨p, hp, rfl⟩ := List.mem_map.1 h
  exact ⟨p, rfl, hcarries p hp⟩

theorem pairwise_map_length {all : List Path}
    (hall : all.map Path.names = g.simpleChains source target) :
    (all.map Path.length).Pairwise (· ≤ ·) := by
  have hordered := g.pairwise_simpleChains source target
  rw [← hall] at hordered
  refine List.pairwise_map.2 ((List.pairwise_map.1 hordered).imp fun {p q} hpq => ?_)
  rw [List.shortlex_def, Path.length_names, Path.length_names] at hpq
  omega

theorem exists_findPaths_of_le (hs : source ∈ g.tableNames) (ht : target ∈ g.tableNames)
    {limit : Nat} (hlimit : (g.simpleChains source target).length ≤ limit) :
    ∃ paths, g.findPaths source target limit = .ok paths ∧
      ∀ p, p ∈ paths ↔ g.Carries p ∧ g.IsSimpleChain source target p.names := by
  obtain ⟨all, hall, hcarries, htake⟩ := exists_findPaths hs ht
  have hlen : all.length ≤ limit := by
    have hmap := congrArg List.length hall
    rw [List.length_map] at hmap
    omega
  exact ⟨all, by rw [htake, List.take_of_length_le hlen],
    fun p => mem_iff_of_map_names_eq hall hcarries⟩

theorem findPaths_of_source_not_mem (h : source ∉ g.tableNames) (target : String) (limit : Nat) :
    g.findPaths source target limit = .error (.unknownTable source) := by
  unfold findPaths
  rw [node_eq_error h]
  rfl

theorem findPaths_of_target_not_mem (hs : source ∈ g.tableNames) (h : target ∉ g.tableNames)
    (limit : Nat) : g.findPaths source target limit = .error (.unknownTable target) := by
  obtain ⟨i, rfl⟩ := mem_tableNames_iff.1 hs
  unfold findPaths
  rw [node_name_get, node_eq_error h]
  rfl

theorem mem_tableNames_of_findPaths {limit : Nat} {paths : List Path}
    (h : g.findPaths source target limit = .ok paths) :
    source ∈ g.tableNames ∧ target ∈ g.tableNames := by
  obtain ⟨i, hi, h⟩ := bind_eq_ok_iff.1 h
  obtain ⟨j, hj, -⟩ := map_eq_ok_iff.1 h
  exact ⟨mem_tableNames_iff.2 ⟨i, node_eq_ok_iff.1 hi⟩,
    mem_tableNames_iff.2 ⟨j, node_eq_ok_iff.1 hj⟩⟩

theorem of_mem_findPaths {limit : Nat} {paths : List Path}
    (h : g.findPaths source target limit = .ok paths) (hp : p ∈ paths) :
    g.Carries p ∧ g.IsSimpleChain source target p.names := by
  obtain ⟨hs, ht⟩ := mem_tableNames_of_findPaths h
  obtain ⟨all, hall, hcarries, htake⟩ := exists_findPaths hs ht
  obtain rfl := Except.ok.inj (h.symm.trans (htake limit))
  exact (mem_iff_of_map_names_eq hall hcarries).1 (List.mem_of_mem_take hp)

/-- A search with room for all simple chains finds a path along each of them. -/
theorem mem_map_names_findPaths {limit : Nat} {paths : List Path}
    (h : g.findPaths source target limit = .ok paths)
    (hlimit : (g.simpleChains source target).length ≤ limit) {names : List String} :
    names ∈ paths.map Path.names ↔ g.IsSimpleChain source target names := by
  obtain ⟨hs, ht⟩ := mem_tableNames_of_findPaths h
  obtain ⟨all, hall, -, htake⟩ := exists_findPaths hs ht
  obtain rfl := Except.ok.inj (h.symm.trans (htake limit))
  rw [List.map_take, hall, List.take_of_length_le hlimit, mem_simpleChains]

theorem nodup_names_findPaths {limit : Nat} {paths : List Path}
    (h : g.findPaths source target limit = .ok paths) : (paths.map Path.names).Nodup := by
  obtain ⟨hs, ht⟩ := mem_tableNames_of_findPaths h
  obtain ⟨all, hall, -, htake⟩ := exists_findPaths hs ht
  obtain rfl := Except.ok.inj (h.symm.trans (htake limit))
  rw [List.map_take, hall]
  exact (nodup_of_pairwise (g.pairwise_simpleChains source target)).sublist (List.take_sublist _ _)

/-- For known tables, a search gives the first simple chains, as many as are asked for, each as the
path that the graph carries along it. -/
theorem findPaths_eq_take_simpleChains (hs : source ∈ g.tableNames) (ht : target ∈ g.tableNames) :
    (∀ names, names ∈ g.simpleChains source target ↔ g.IsSimpleChain source target names) ∧
    (g.simpleChains source target).Nodup ∧
    (g.simpleChains source target).Pairwise (List.Shortlex Text.ByteLt) ∧
    ∀ limit, ∃ paths, g.findPaths source target limit = .ok paths ∧
      paths.map Path.names = (g.simpleChains source target).take limit ∧
      (∀ p ∈ paths, g.Carries p) ∧
      (source = target → 1 ≤ limit → ∃ t, g.table? source = some t ∧ paths = [⟨t, []⟩]) := by
  have hpairwise := g.pairwise_simpleChains source target
  refine ⟨fun names => mem_simpleChains, nodup_of_pairwise hpairwise, hpairwise, fun limit => ?_⟩
  obtain ⟨all, hall, hcarries, htake⟩ := exists_findPaths hs ht
  have hpaths : ∀ p ∈ all.take limit, g.Carries p := fun p hp =>
    hcarries p (List.mem_of_mem_take hp)
  refine ⟨all.take limit, htake limit, by rw [List.map_take, hall], hpaths, ?_⟩
  rintro rfl hlimit
  have hnames : all.map Path.names = [[source]] := by
    rw [hall]
    refine eq_of_pairwise_of_mem_iff hpairwise (List.pairwise_singleton _ _) fun names => ?_
    rw [mem_simpleChains, isSimpleChain_self_iff hs, List.mem_singleton]
  obtain ⟨⟨t, hops⟩, rfl, hname⟩ := List.map_eq_singleton_iff.1 hnames
  obtain ⟨hname, hhops⟩ := List.cons.inj hname
  obtain rfl := List.map_eq_nil_iff.1 (List.map_eq_nil_iff.1 hhops)
  refine ⟨t, ?_, List.take_of_length_le hlimit⟩
  rw [← hname]
  exact carries_nil_iff.1 (hcarries _ List.mem_cons_self)

/-- Between two tables that refer to each other there is one path. -/
theorem findPaths_of_mutualRows :
    ∃ g, ofRows mutualRows "s" false = .ok g ∧
      ∃ paths, g.findPaths "a" "b" 3 = .ok paths ∧
        paths.map Path.names = (g.simpleChains "a" "b").take 3 ∧
          ["a", "b"] ∈ g.simpleChains "a" "b" := by
  obtain ⟨g, hg, -, ha, hb, -, -, hlink⟩ := exists_ofRows_mutualRows
  obtain ⟨hmem, -, -, hsearch⟩ := findPaths_eq_take_simpleChains ha hb
  obtain ⟨paths, hpaths, hnames, -⟩ := hsearch 3
  exact ⟨g, hg, paths, hpaths, hnames,
    (hmem _).2 (isSimpleChain_pair ha hb (by decide) (isLinked_iff.2 ⟨_, hlink⟩))⟩

end JoinGraph

end JoinPaths
