import JoinPaths.Proofs.JoinGraph.Paths

/-!
# Walks and shortest paths

A walk leads from one table to another like a simple chain, but may come back to a table as often as
it likes. A search only goes along simple chains, and still it tells whether there is any walk, and
its first path is as short as any walk (`findPaths_ne_nil_iff_exists_isWalk`).

1. Where a walk comes back to a table, what lies between can be left out. So a simple chain with the
   same ends is among the tables of the walk (`IsWalk.exists_isSimpleChain`).
2. The search lists simple chains by length, so that none is shorter than the first one
   (`length_le_of_head?`).
-/

namespace JoinPaths.JoinGraph

variable {g : JoinGraph} {source target via : String} {names : List String}

/-! ## Walks -/

/-- The names of tables that lead from one table to another, whether or not tables repeat. -/
structure IsWalk (g : JoinGraph) (source target : String) (names : List String) : Prop where
  known : ∀ name ∈ names, name ∈ g.tableNames
  head : names.head? = some source
  last : names.getLast? = some target
  linked : names.IsChain fun a b => g.isLinked a b = true

theorem isSimpleChain_iff_isWalk :
    g.IsSimpleChain source target names ↔ g.IsWalk source target names ∧ names.Nodup :=
  ⟨fun h => ⟨⟨h.known, h.head, h.last, h.linked⟩, h.nodup⟩,
    fun ⟨h, hnodup⟩ => ⟨h.known, h.head, h.last, hnodup, h.linked⟩⟩

theorem IsWalk.eq_cons (h : g.IsWalk source target names) : ∃ rest, names = source :: rest := by
  have hhead := h.head
  cases names with
  | nil => cases hhead
  | cons name rest =>
    obtain rfl := Option.some.inj hhead
    exact ⟨rest, rfl⟩

theorem IsWalk.of_append (before : List String) {after : List String}
    (h : g.IsWalk source target (before ++ via :: after)) : g.IsWalk via target (via :: after) where
  known := fun name hname => h.known name (List.mem_append_right before hname)
  head := rfl
  last := by
    rw [← h.last, List.getLast?_append_of_ne_nil before (List.cons_ne_nil via after)]
  linked := (List.isChain_append.1 h.linked).2.1

theorem isWalk_cons_cons_iff {rest : List String} :
    g.IsWalk source target (source :: via :: rest) ↔
      source ∈ g.tableNames ∧ g.isLinked source via = true ∧ g.IsWalk via target (via :: rest) := by
  constructor
  · intro h
    exact ⟨h.known source List.mem_cons_self, (List.isChain_cons_cons.1 h.linked).1,
      IsWalk.of_append [source] h⟩
  · rintro ⟨hs, hlink, h⟩
    exact ⟨List.forall_mem_cons.2 ⟨hs, h.known⟩, rfl, by rw [List.getLast?_cons_cons, h.last],
      .cons_cons hlink h.linked⟩

/-- A simple chain with the ends of a walk is among its tables. -/
theorem IsWalk.exists_isSimpleChain (h : g.IsWalk source target names) :
    ∃ simple, g.IsSimpleChain source target simple ∧ simple.Sublist names := by
  induction names generalizing source with
  | nil => cases h.head
  | cons name rest ih =>
    obtain rfl : name = source := Option.some.inj h.head
    cases rest with
    | nil =>
      exact ⟨[name], isSimpleChain_iff_isWalk.2 ⟨h, List.nodup_singleton name⟩, .refl _⟩
    | cons second rest =>
      obtain ⟨hs, hlink, hrest⟩ := isWalk_cons_cons_iff.1 h
      obtain ⟨simple, hsimple, hsub⟩ := ih hrest
      obtain ⟨hwalk, hnodup⟩ := isSimpleChain_iff_isWalk.1 hsimple
      by_cases hmem : name ∈ simple
      · -- the walk comes back to its first table: it can begin there
        obtain ⟨before, after, rfl⟩ := List.append_of_mem hmem
        have hsuffix : (name :: after).Sublist (before ++ name :: after) :=
          List.sublist_append_right before _
        exact ⟨name :: after, isSimpleChain_iff_isWalk.2 ⟨hwalk.of_append before,
          hnodup.sublist hsuffix⟩, (hsuffix.trans hsub).cons name⟩
      · obtain ⟨others, rfl⟩ := hwalk.eq_cons
        exact ⟨name :: second :: others, isSimpleChain_iff_isWalk.2
          ⟨isWalk_cons_cons_iff.2 ⟨hs, hlink, hwalk⟩, List.nodup_cons.2 ⟨hmem, hnodup⟩⟩,
          hsub.cons_cons name⟩

/-! ## Shortest paths -/

/-- No path along a simple chain is shorter than the first one. -/
theorem length_le_of_head? {all : List Path}
    (hall : all.map Path.names = g.simpleChains source target) {first p : Path}
    (hfirst : all.head? = some first) (hp : p ∈ all) : first.length ≤ p.length := by
  have hordered := pairwise_map_length hall
  cases all with
  | nil => cases hfirst
  | cons q all =>
    obtain rfl : q = first := Option.some.inj hfirst
    rcases List.mem_cons.1 hp with rfl | hp
    · exact Nat.le_refl _
    · exact (List.pairwise_cons.1 hordered).1 _ (List.mem_map.2 ⟨p, hp, rfl⟩)

/-- A search for a path between two tables finds one exactly if some walk leads from the first to
the second, and then its first path is a walk with as few tables as any. -/
theorem findPaths_ne_nil_iff_exists_isWalk (hs : source ∈ g.tableNames)
    (ht : target ∈ g.tableNames) {limit : Nat} (hlimit : 1 ≤ limit) :
    ∃ paths, g.findPaths source target limit = .ok paths ∧
      (paths ≠ [] ↔ ∃ names, g.IsWalk source target names) ∧
      ∀ first ∈ paths.head?, g.IsWalk source target first.names ∧
        ∀ names, g.IsWalk source target names → first.length ≤ names.length := by
  obtain ⟨all, hall, hcarries, htake⟩ := exists_findPaths hs ht
  have hmem : ∀ p ∈ all, g.IsWalk source target p.names := fun p hp =>
    (isSimpleChain_iff_isWalk.1 ((mem_iff_of_map_names_eq hall hcarries).1 hp).2).1
  have hwalk : ∀ names, g.IsWalk source target names → ∃ p ∈ all, p.length ≤ names.length := by
    intro names h
    obtain ⟨simple, hsimple, hsub⟩ := h.exists_isSimpleChain
    rw [← mem_simpleChains, ← hall] at hsimple
    obtain ⟨p, hp, rfl⟩ := List.mem_map.1 hsimple
    exact ⟨p, hp, p.length_names ▸ hsub.length_le⟩
  have hpos : limit ≠ 0 := by omega
  refine ⟨all.take limit, htake limit, ?_, fun first hfirst => ?_⟩
  · rw [ne_eq, List.take_eq_nil_iff, or_iff_right hpos]
    constructor
    · intro hne
      obtain ⟨p, hp⟩ := List.exists_mem_of_ne_nil all hne
      exact ⟨p.names, hmem p hp⟩
    · rintro ⟨names, h⟩
      obtain ⟨p, hp, -⟩ := hwalk names h
      exact List.ne_nil_of_mem hp
  · rw [List.head?_take, if_neg hpos, Option.mem_def] at hfirst
    refine ⟨hmem first (List.mem_of_head? hfirst), fun names h => ?_⟩
    obtain ⟨p, hp, hle⟩ := hwalk names h
    exact Nat.le_trans (length_le_of_head? hall hfirst hp) hle

/-- From one of two tables that refer to each other a walk goes back and forth to the other one, and
the path that is found goes there at once. -/
theorem findPaths_shortest_of_mutualRows :
    ∃ g, ofRows mutualRows "s" false = .ok g ∧
      g.IsWalk "a" "b" ["a", "a", "b", "a", "b"] ∧
        ∃ first rest, g.findPaths "a" "b" 1 = .ok (first :: rest) ∧ first.length ≤ 2 := by
  obtain ⟨g, hg, -, ha, hb, -, -, hab⟩ := exists_ofRows_mutualRows
  have hba : g.linkage? "b" "a" = .ok (some ⟨"y", "id"⟩) := by
    rw [linkage?_ofRows hg hb ha]
    rfl
  have haa : g.linkage? "a" "a" = .ok (some ⟨"up", "id"⟩) := by
    rw [linkage?_ofRows hg ha ha]
    rfl
  have hshort : g.IsWalk "a" "b" ["a", "b"] :=
    (isSimpleChain_iff_isWalk.1
      (isSimpleChain_pair ha hb (by decide) (isLinked_iff.2 ⟨_, hab⟩))).1
  have hlong : g.IsWalk "a" "b" ["a", "a", "b", "a", "b"] := by
    refine isWalk_cons_cons_iff.2 ⟨ha, isLinked_iff.2 ⟨_, haa⟩, ?_⟩
    refine isWalk_cons_cons_iff.2 ⟨ha, isLinked_iff.2 ⟨_, hab⟩, ?_⟩
    exact isWalk_cons_cons_iff.2 ⟨hb, isLinked_iff.2 ⟨_, hba⟩, hshort⟩
  obtain ⟨paths, hpaths, hiff, hfirst⟩ := findPaths_ne_nil_iff_exists_isWalk ha hb (Nat.le_refl 1)
  cases paths with
  | nil => exact absurd rfl (hiff.2 ⟨_, hlong⟩)
  | cons first rest => exact ⟨g, hg, hlong, first, rest, hpaths, (hfirst first rfl).2 _ hshort⟩

end JoinPaths.JoinGraph
