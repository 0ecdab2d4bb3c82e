import JoinPaths.Proofs.Except
import JoinPaths.Proofs.JoinGraph.Paths

/-!
# Paths that are named

Naming the tables of a path one by one gives exactly the paths that the graph carries and on which
no table occurs twice (`explicitPath_eq_ok_iff`). These are the paths that a search between the
first and the last table goes through (`explicitPath_eq_ok_iff_mem`).
-/

namespace JoinPaths.JoinGraph

variable {g : JoinGraph} {source target : String} {names : List String} {p : Path}

/-! ## Checking names -/

theorem distinctNodes_eq_ok_iff {seen nodes : List (Fin g.tables.size)} :
    g.distinctNodes seen names = .ok nodes ↔
      nodes.map (fun i => (g.tables.get i).name) = names ∧ nodes.Nodup ∧
        ∀ i ∈ nodes, i ∉ seen := by
  induction names generalizing seen nodes with
  | nil =>
    rw [distinctNodes, Except.ok.injEq, List.map_eq_nil_iff]
    constructor
    · rintro rfl
      exact ⟨rfl, .nil, fun i hi => absurd hi List.not_mem_nil⟩
    · exact fun h => h.1.symm
  | cons name names ih =>
    constructor
    · intro h
      rw [distinctNodes] at h
      split at h
      · cases h
      · next i hi =>
        split at h
        · cases h
        · next hseen =>
          obtain ⟨rest, hrest, rfl⟩ := map_eq_ok_iff.1 h
          obtain ⟨hnames, hnodup, hnot⟩ := ih.1 hrest
          refine ⟨?_, List.nodup_cons.2 ⟨fun h => hnot i h List.mem_cons_self, hnodup⟩, ?_⟩
          · rw [List.map_cons, hnames, node_eq_ok_iff.1 hi]
          · exact List.forall_mem_cons.2
              ⟨hseen, fun j hj hmem => hnot j hj (List.mem_cons_of_mem i hmem)⟩
    · rintro ⟨hnames, hnodup, hnot⟩
      cases nodes with
      | nil => exact absurd hnames (by simp)
      | cons i rest =>
        obtain ⟨rfl, hrest⟩ := List.cons.inj hnames
        obtain ⟨hi, hnodup⟩ := List.nodup_cons.1 hnodup
        obtain ⟨hseen, hnot⟩ := List.forall_mem_cons.1 hnot
        have htail : g.distinctNodes (i :: seen) names = .ok rest := by
          refine ih.2 ⟨hrest, hnodup, fun j hj hmem => ?_⟩
          rcases List.mem_cons.1 hmem with rfl | hmem
          · exact hi hj
          · exact hnot j hj hmem
        rw [distinctNodes, node_name_get]
        dsimp only
        rw [if_neg hseen, htail]
        rfl

theorem distinctNodes_cons (first : String) (rest : List String) :
    g.distinctNodes [] (first :: rest) =
      (g.node first).bind fun i => (g.distinctNodes [i] rest).map (i :: ·) := by
  rw [distinctNodes]
  cases g.node first with
  | error e => rfl
  | ok i => exact if_neg List.not_mem_nil

theorem hopsAlong_eq_ok_iff {i : Fin g.tables.size} {nodes : List (Fin g.tables.size)}
    {hops : List (Linkage × Table)} :
    g.hopsAlong i nodes = .ok hops ↔
      hops.map Prod.snd = nodes.map g.tables.get ∧ g.Carries ⟨g.tables.get i, hops⟩ := by
  induction nodes generalizing i hops with
  | nil =>
    rw [hopsAlong, Except.ok.injEq, List.map_nil, List.map_eq_nil_iff]
    constructor
    · rintro rfl
      exact ⟨rfl, carries_nil_iff.2 (table?_name_get i)⟩
    · exact fun h => h.1.symm
  | cons j nodes ih =>
    constructor
    · intro h
      rw [hopsAlong] at h
      split at h
      · cases h
      · next l hl =>
        obtain ⟨rest, hrest, rfl⟩ := map_eq_ok_iff.1 h
        obtain ⟨htables, hcarries⟩ := ih.1 hrest
        refine ⟨by rw [List.map_cons, List.map_cons, htables], carries_cons_iff.2 ?_⟩
        refine ⟨table?_name_get i, ?_, hcarries⟩
        rw [linkage?_name_get, hl]
    · rintro ⟨htables, hcarries⟩
      cases hops with
      | nil => exact absurd htables (by simp)
      | cons hop rest =>
        obtain ⟨l, t⟩ := hop
        obtain ⟨rfl, hrest⟩ := List.cons.inj htables
        obtain ⟨-, hl, hcarries⟩ := carries_cons_iff.1 hcarries
        rw [linkage?_name_get] at hl
        rw [hopsAlong, Except.ok.inj hl]
        dsimp only
        rw [ih.2 ⟨hrest, hcarries⟩]
        rfl

/-- The named path is the one that the graph carries, if it has two tables or more and none twice. -/
theorem explicitPath_eq_ok_iff : g.explicitPath names = .ok p ↔
    2 ≤ names.length ∧ p.names = names ∧ names.Nodup ∧ g.Carries p := by
  constructor
  · intro h
    unfold explicitPath at h
    split at h
    · next first second rest =>
      obtain ⟨i, hi, h⟩ := bind_eq_ok_iff.1 h
      obtain ⟨nodes, hnodes, h⟩ := bind_eq_ok_iff.1 h
      obtain ⟨hops, hhops, rfl⟩ := map_eq_ok_iff.1 h
      obtain ⟨hnames, hnodup, hnot⟩ := distinctNodes_eq_ok_iff.1 hnodes
      obtain ⟨htables, hcarries⟩ := hopsAlong_eq_ok_iff.1 hhops
      have hall : (i :: nodes).map (fun k => (g.tables.get k).name) = first :: second :: rest := by
        rw [List.map_cons, hnames, node_eq_ok_iff.1 hi]
      refine ⟨Nat.le_add_left _ _, ?_, ?_, hcarries⟩
      · rw [← hall, Path.names, Path.tables, htables, List.map_cons, List.map_cons, List.map_map]
        rfl
      · rw [← hall]
        refine List.Nodup.map (fun j k hjk => TableList.name_get_inj.1 hjk) ?_
        exact List.nodup_cons.2 ⟨fun h => hnot i h List.mem_cons_self, hnodup⟩
    · cases h
  · rintro ⟨hlen, rfl, hnodup, hcarries⟩
    obtain ⟨t, hops⟩ := p
    obtain ⟨nodes, hnodes⟩ : (Path.mk t hops).tables ∈ Set.range (List.map g.tables.get) := by
      rw [Set.range_list_map]
      intro u hu
      exact TableList.mem_toList_iff.1 (table?_eq_some_iff.1 (hcarries.tables u hu)).1
    cases nodes with
    | nil => exact absurd hnodes (by simp [Path.tables])
    | cons i nodes =>
      obtain ⟨rfl, htables⟩ := List.cons.inj hnodes
      have hhops : g.hopsAlong i nodes = .ok hops :=
        hopsAlong_eq_ok_iff.2 ⟨htables.symm, hcarries⟩
      have hnames : nodes.map (fun k => (g.tables.get k).name) =
          hops.map fun hop => hop.2.name := by
        have h := congrArg (List.map Table.name) htables
        rwa [List.map_map, List.map_map] at h
      rw [Path.names_eq_cons, ← hnames] at hnodup hlen ⊢
      obtain ⟨hi, hnodup⟩ := List.nodup_cons.1 (List.Nodup.of_map
        (l := i :: nodes) (fun k => (g.tables.get k).name) hnodup)
      have hdistinct : g.distinctNodes [i] (nodes.map fun k => (g.tables.get k).name) =
          .ok nodes := by
        refine distinctNodes_eq_ok_iff.2 ⟨rfl, hnodup, fun j hj hmem => hi ?_⟩
        rwa [← List.mem_singleton.1 hmem]
      cases nodes with
      | nil => exact absurd hlen (by simp)
      | cons j nodes =>
        rw [List.map_cons] at hdistinct ⊢
        unfold explicitPath
        dsimp only
        rw [node_name_get]
        dsimp only [Except.bind]
        rw [hdistinct]
        dsimp only
        rw [hhops]
        rfl

theorem isTrivial_of_explicitPath (h : g.explicitPath names = .ok p) : p.isTrivial = false := by
  obtain ⟨hlength, hnames, -⟩ := explicitPath_eq_ok_iff.1 h
  rw [Bool.eq_false_iff, ne_eq, Path.isTrivial_iff, hnames]
  omega

/-! ## Searching for a named path -/

/-- A named path is found by every search from its first to its last table that has room for all
simple chains, and only such a path can be named. -/
theorem explicitPath_eq_ok_iff_mem {limit : Nat}
    (hlimit : ∀ source target, names.head? = some source → names.getLast? = some target →
      (g.simpleChains source target).length ≤ limit) :
    g.explicitPath names = .ok p ↔ 2 ≤ names.length ∧
      ∃ source ∈ g.tableNames, ∃ target ∈ g.tableNames,
        names.head? = some source ∧ names.getLast? = some target ∧
          ∃ paths, g.findPaths source target limit = .ok paths ∧ p ∈ paths ∧
            p.names = names := by
  rw [explicitPath_eq_ok_iff]
  constructor
  · rintro ⟨hlen, rfl, hnodup, hcarries⟩
    have hchain := hcarries.isSimpleChain hnodup
    obtain ⟨paths, hpaths, hmem⟩ := exists_findPaths_of_le hchain.source_mem hchain.target_mem
      (hlimit _ _ hchain.head hchain.last)
    exact ⟨hlen, _, hchain.source_mem, _, hchain.target_mem, hchain.head, hchain.last, paths,
      hpaths, (hmem p).2 ⟨hcarries, hchain⟩, rfl⟩
  · rintro ⟨hlen, source, hs, target, ht, hhead, hlast, paths, hpaths, hp, rfl⟩
    obtain ⟨paths', hpaths', hmem⟩ := exists_findPaths_of_le hs ht (hlimit _ _ hhead hlast)
    obtain rfl := Except.ok.inj (hpaths.symm.trans hpaths')
    obtain ⟨hcarries, hchain⟩ := (hmem p).1 hp
    exact ⟨hlen, rfl, hchain.nodup, hcarries⟩

theorem explicitPath_names {limit : Nat} {paths : List Path}
    (h : g.findPaths source target limit = .ok paths) (hp : p ∈ paths)
    (htrivial : p.isTrivial = false) : g.explicitPath p.names = .ok p := by
  obtain ⟨hcarries, hchain⟩ := of_mem_findPaths h hp
  refine explicitPath_eq_ok_iff.2 ⟨?_, rfl, hchain.nodup, hcarries⟩
  have hpos := List.length_pos_of_mem (List.mem_of_head? hchain.head)
  have hne := mt p.isTrivial_iff.2 (by rw [htrivial]; exact Bool.false_ne_true)
  omega

end JoinPaths.JoinGraph
