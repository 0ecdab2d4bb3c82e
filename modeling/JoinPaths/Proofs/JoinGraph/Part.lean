import JoinPaths.Proofs.JoinGraph.Outcome
import JoinPaths.Proofs.JoinGraph.Paths

/-!
# Parts of a graph

A graph is a part of a larger one if the larger one holds its tables, links them in the same way,
and has links in one direction only between the part and the rest (`IsPart`). Nodes have other
places in the larger graph, and its grid is laid out anew, but nothing is to be seen of that from
the tables of the part:

1. A chain of links between two tables of the part stays in it, since it could not come back, or
   could not have left. So both graphs have the same simple chains between them
   (`IsPart.isSimpleChain_iff`), and the same paths along these (`IsPart.findPaths_eq`).
2. Every node of the part has a place in the larger graph (`Placement`). To name tables one by one
   does in the larger graph what it does in the part, each node taken to its place, and so it ends
   with the same path or for the same reason (`IsPart.explicitPath_eq`).
-/

namespace JoinPaths.JoinGraph

variable {g h : JoinGraph} {source target name : String} {names : List String} {p : Path}

/-- Whether a graph is a part of another one, linked with the rest in one direction only. -/
structure IsPart (g h : JoinGraph) : Prop where
  schema : h.schema = g.schema
  table : ∀ name ∈ g.tableNames, h.table? name = g.table? name
  linkage : ∀ source ∈ g.tableNames, ∀ target ∈ g.tableNames,
    h.linkage? source target = g.linkage? source target
  /-- No link leads out of the part, or none leads into it. -/
  oneWay :
    (∀ a b, h.isLinked a b = true → a ∈ g.tableNames → b ∈ g.tableNames) ∨
    (∀ a b, h.isLinked a b = true → b ∈ g.tableNames → a ∈ g.tableNames)

namespace IsPart

theorem mem_tableNames (hpart : g.IsPart h) (hname : name ∈ g.tableNames) :
    name ∈ h.tableNames := by
  obtain ⟨i, rfl⟩ := mem_tableNames_iff.1 hname
  exact mem_tableNames_of_table? ((hpart.table _ hname).trans (table?_name_get i))

theorem isLinked_eq (hpart : g.IsPart h) (hs : source ∈ g.tableNames)
    (ht : target ∈ g.tableNames) : h.isLinked source target = g.isLinked source target := by
  unfold isLinked
  rw [hpart.linkage source hs target ht]

/-! ## Searching -/

/-- A chain of links with both ends in the part stays in it. -/
theorem mem_of_isChain (hpart : g.IsPart h)
    (hlinked : names.IsChain fun a b => h.isLinked a b = true)
    (hhead : names.head? = some source) (hs : source ∈ g.tableNames)
    (hlast : names.getLast? = some target) (ht : target ∈ g.tableNames) :
    ∀ name ∈ names, name ∈ g.tableNames := by
  rcases hpart.oneWay with hout | hin
  · refine hlinked.induction (· ∈ g.tableNames) names (fun a b => hout a b) fun hne => ?_
    rw [List.head?_eq_some_head hne, Option.some.injEq] at hhead
    exact hhead ▸ hs
  · refine hlinked.backwards_induction (· ∈ g.tableNames) names (fun a b => hin a b) fun hne => ?_
    rw [List.getLast?_eq_some_getLast hne, Option.some.injEq] at hlast
    exact hlast ▸ ht

theorem isSimpleChain_iff (hpart : g.IsPart h) (hs : source ∈ g.tableNames)
    (ht : target ∈ g.tableNames) :
    h.IsSimpleChain source target names ↔ g.IsSimpleChain source target names := by
  have hlinks : (∀ name ∈ names, name ∈ g.tableNames) →
      (names.IsChain (fun a b => h.isLinked a b = true) ↔
        names.IsChain fun a b => g.isLinked a b = true) := by
    intro hknown
    refine List.IsChain.iff_of_mem_imp fun a b ha hb => ?_
    rw [hpart.isLinked_eq (hknown a ha) (hknown b hb)]
  constructor
  · intro hchain
    have hknown := hpart.mem_of_isChain hchain.linked hchain.head hs hchain.last ht
    exact ⟨hknown, hchain.head, hchain.last, hchain.nodup, (hlinks hknown).1 hchain.linked⟩
  · intro hchain
    exact ⟨fun name hname => hpart.mem_tableNames (hchain.known name hname), hchain.head,
      hchain.last, hchain.nodup, (hlinks hchain.known).2 hchain.linked⟩

theorem simpleChains_eq (hpart : g.IsPart h) (hs : source ∈ g.tableNames)
    (ht : target ∈ g.tableNames) : h.simpleChains source target = g.simpleChains source target := by
  refine eq_of_pairwise_of_mem_iff (h.pairwise_simpleChains source target)
    (g.pairwise_simpleChains source target) fun names => ?_
  rw [mem_simpleChains, mem_simpleChains, hpart.isSimpleChain_iff hs ht]

theorem carries (hpart : g.IsPart h) (hp : g.Carries p) : h.Carries p where
  tables := by
    intro t ht
    have htable := hp.tables t ht
    rw [hpart.table t.name (mem_tableNames_of_table? htable), htable]
  segments := by
    intro s hs
    have hlink := hp.segments s hs
    obtain ⟨hsource, htarget⟩ := mem_tableNames_of_isLinked (isLinked_iff.2 ⟨_, hlink⟩)
    rw [hpart.linkage _ hsource _ htarget, hlink]

end IsPart

theorem eq_of_map_names_eq {paths paths' : List Path} (hpaths : ∀ p ∈ paths, g.Carries p)
    (hpaths' : ∀ p ∈ paths', g.Carries p) (hnames : paths.map Path.names = paths'.map Path.names) :
    paths = paths' := by
  induction paths generalizing paths' with
  | nil => exact (List.map_eq_nil_iff.1 hnames.symm).symm
  | cons p paths ih =>
    obtain ⟨q, rest, rfl, hq, hrest⟩ := List.map_eq_cons_iff.1 hnames.symm
    obtain ⟨hp, hpaths⟩ := List.forall_mem_cons.1 hpaths
    obtain ⟨hq', hrest'⟩ := List.forall_mem_cons.1 hpaths'
    rw [hp.eq_of_names_eq hq' hq.symm, ih hpaths hrest' hrest.symm]

/-- Between tables of the part, the larger graph is searched with the same result. -/
theorem IsPart.findPaths_eq (hpart : g.IsPart h) (hs : source ∈ g.tableNames)
    (ht : target ∈ g.tableNames) (limit : Nat) :
    h.findPaths source target limit = g.findPaths source target limit := by
  obtain ⟨all, hall, hcarries, htake⟩ := g.exists_findPaths hs ht
  obtain ⟨all', hall', hcarries', htake'⟩ :=
    h.exists_findPaths (hpart.mem_tableNames hs) (hpart.mem_tableNames ht)
  have hnames : all'.map Path.names = all.map Path.names := by
    rw [hall', hall, hpart.simpleChains_eq hs ht]
  have heq := eq_of_map_names_eq hcarries' (fun p hp => hpart.carries (hcarries p hp)) hnames
  rw [htake', htake, heq]

/-! ## Naming -/

/-- A place for every node of a graph in another one, with the same table and the same links. -/
structure Placement (g h : JoinGraph) where
  place : Fin g.tables.size → Fin h.tables.size
  table : ∀ i, h.tables.get (place i) = g.tables.get i
  link : ∀ i j, h.links.get (place i) (place j) = g.links.get i j

theorem IsPart.nonempty_placement (hpart : g.IsPart h) : Nonempty (g.Placement h) := by
  have hplace : ∀ i, ∃ j, h.tables.get j = g.tables.get i := by
    intro i
    have hname : (g.tables.get i).name ∈ g.tableNames := mem_tableNames_iff.2 ⟨i, rfl⟩
    have htable := hpart.table _ hname
    rw [table?_name_get] at htable
    exact TableList.mem_toList_iff.1 (table?_eq_some_iff.1 htable).1
  obtain ⟨place, htable⟩ := Classical.axiomOfChoice hplace
  refine ⟨place, htable, fun i j => ?_⟩
  have hlink := hpart.linkage (g.tables.get i).name (mem_tableNames_iff.2 ⟨i, rfl⟩)
    (g.tables.get j).name (mem_tableNames_iff.2 ⟨j, rfl⟩)
  rw [linkage?_name_get, ← htable i, ← htable j, linkage?_name_get] at hlink
  exact Except.ok.inj hlink

namespace Placement

variable (e : g.Placement h)

theorem place_injective : Function.Injective e.place := by
  intro i j hij
  rw [← TableList.name_get_inj, ← e.table i, ← e.table j, hij]

theorem node_name_get (i : Fin g.tables.size) :
    h.node (g.tables.get i).name = .ok (e.place i) := by
  rw [node_eq_ok_iff, e.table]

theorem distinctNodes_eq (hnames : ∀ name ∈ names, name ∈ g.tableNames)
    (seen : List (Fin g.tables.size)) :
    h.distinctNodes (seen.map e.place) names =
      (g.distinctNodes seen names).map (List.map e.place) := by
  induction names generalizing seen with
  | nil => rfl
  | cons name names ih =>
    obtain ⟨hname, hrest⟩ := List.forall_mem_cons.1 hnames
    obtain ⟨i, rfl⟩ := mem_tableNames_iff.1 hname
    have hseen : e.place i ∈ seen.map e.place ↔ i ∈ seen :=
      List.mem_map_of_injective e.place_injective
    rw [distinctNodes, distinctNodes, e.node_name_get, JoinGraph.node_name_get]
    dsimp only
    by_cases hi : i ∈ seen
    · rw [if_pos (hseen.2 hi), if_pos hi]
      rfl
    · have hnodes := ih hrest (i :: seen)
      rw [List.map_cons] at hnodes
      rw [if_neg (mt hseen.1 hi), if_neg hi, hnodes]
      cases g.distinctNodes (i :: seen) names <;> rfl

theorem hopsAlong_eq (i : Fin g.tables.size) (nodes : List (Fin g.tables.size)) :
    h.hopsAlong (e.place i) (nodes.map e.place) = g.hopsAlong i nodes := by
  induction nodes generalizing i with
  | nil => rfl
  | cons j nodes ih =>
    rw [List.map_cons, hopsAlong, hopsAlong, e.link, e.table, e.table, ih]

end Placement

theorem IsPart.explicitPath_eq (hpart : g.IsPart h)
    (hnames : ∀ name ∈ names, name ∈ g.tableNames) :
    h.explicitPath names = g.explicitPath names := by
  obtain ⟨e⟩ := hpart.nonempty_placement
  unfold explicitPath
  split
  · next first second rest =>
    obtain ⟨hfirst, hrest⟩ := List.forall_mem_cons.1 hnames
    obtain ⟨i, rfl⟩ := mem_tableNames_iff.1 hfirst
    have hdistinct := e.distinctNodes_eq hrest [i]
    rw [List.map_singleton] at hdistinct
    rw [e.node_name_get, node_name_get]
    dsimp only [Except.bind]
    rw [hdistinct]
    cases g.distinctNodes [i] (second :: rest) with
    | error cause => rfl
    | ok nodes =>
      dsimp only [Except.map]
      rw [e.hopsAlong_eq, e.table]
  · rfl

end JoinPaths.JoinGraph
