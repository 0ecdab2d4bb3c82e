import JoinPaths.Proofs.JoinGraph.Paths
import Mathlib.Data.Set.Function

/-!
# Reversal of paths

In an undirected graph every path can be gone back: the same tables from the last to the first, each
joined through the reversed linkage (`Path.reverse`). `bijOn_reverse_findPaths` says that this pairs
the paths between two tables with those the other way round.

1. The linkage back is the reversed one, since every row says the same about two tables from both
   sides (`isSymmetric_ofRows`).
2. So the reverse of a simple path of the graph is one as well (`Carries.reverse`), and to reverse
   it again gives it back (`reverse_reverse`).
3. Searches list shorter paths first. As many are of each length both ways, so the two lists agree
   in their lengths, place by place (`map_length_eq`).
-/

namespace JoinPaths

open Catalog (Row)

/-! ## Reversing a path -/

namespace Path

variable {p q : Path}

theorem eq_of_tables_eq (htables : p.tables = q.tables) (hlinkages : p.linkages = q.linkages) :
    p = q := by
  obtain ⟨source, hops⟩ := p
  obtain ⟨source', hops'⟩ := q
  obtain ⟨rfl, htargets⟩ := List.cons.inj htables
  have hops_eq : ∀ hops : List (Linkage × Table),
      (hops.map Prod.fst).zip (hops.map Prod.snd) = hops := by
    intro hops
    rw [← List.unzip_fst, ← List.unzip_snd, List.zip_unzip]
  unfold linkages at hlinkages
  rw [← hops_eq hops, hlinkages, htargets, hops_eq]

/-- The path from its other end: its tables from the last to the first, and its linkages from the
last to the first, each of them reversed. -/
def reverse (p : Path) : Path where
  start := p.finish
  hops := (p.linkages.map Linkage.reverse).reverse.zip p.tables.reverse.tail

@[simp] theorem tables_reverse (p : Path) : p.reverse.tables = p.tables.reverse := by
  have hhead : p.tables.reverse.head? = some p.finish := by
    rw [List.head?_reverse, getLast?_tables]
  have hlen : p.tables.reverse.tail.length ≤ (p.linkages.map Linkage.reverse).reverse.length := by
    have hlinkages := p.length_linkages
    rw [List.length_tail, List.length_reverse, List.length_reverse, List.length_map, length_tables]
    omega
  show p.finish :: ((p.linkages.map Linkage.reverse).reverse.zip p.tables.reverse.tail).map
    Prod.snd = _
  rw [List.map_snd_zip hlen, List.cons_head?_tail hhead]

@[simp] theorem linkages_reverse (p : Path) :
    p.reverse.linkages = (p.linkages.map Linkage.reverse).reverse := by
  have hlen : (p.linkages.map Linkage.reverse).reverse.length ≤ p.tables.reverse.tail.length := by
    have hlinkages := p.length_linkages
    rw [List.length_tail, List.length_reverse, List.length_reverse, List.length_map, length_tables]
    omega
  exact List.map_fst_zip hlen

@[simp] theorem names_reverse (p : Path) : p.reverse.names = p.names.reverse := by
  unfold names
  rw [tables_reverse, List.map_reverse]

@[simp] theorem length_reverse (p : Path) : p.reverse.length = p.length := by
  rw [← length_tables, tables_reverse, List.length_reverse, length_tables]

@[simp] theorem start_reverse (p : Path) : p.reverse.start = p.finish := rfl

@[simp] theorem finish_reverse (p : Path) : p.reverse.finish = p.start := by
  have hlast := p.reverse.getLast?_tables
  rw [tables_reverse, List.getLast?_reverse] at hlast
  exact (Option.some.inj hlast).symm

@[simp] theorem reverse_reverse (p : Path) : p.reverse.reverse = p := by
  refine eq_of_tables_eq ?_ ?_
  · rw [tables_reverse, tables_reverse, List.reverse_reverse]
  · rw [linkages_reverse, linkages_reverse, List.map_reverse, List.reverse_reverse, List.map_map]
    exact List.map_id'' Linkage.reverse_reverse _

theorem reverse_injective : Function.Injective reverse :=
  Function.Involutive.injective reverse_reverse

theorem reverse_cons (source target : Table) (l : Linkage) (hops : List (Linkage × Table)) :
    (Path.mk source ((l, target) :: hops)).reverse =
      (Path.mk target hops).reverse.extend l.reverse source := by
  refine eq_of_tables_eq ?_ ?_
  · rw [tables_reverse, tables_extend, tables_reverse]
    exact List.reverse_cons
  · rw [linkages_reverse, linkages_extend, linkages_reverse]
    exact List.reverse_cons

end Path

/-! ## Undirected graphs -/

namespace Catalog.Row

theorem linkageFrom?_eq_none {source target : String} (hne : source ≠ target) {row : Row}
    {l : Linkage} (h : row.linkageFrom? source target = some l) :
    row.linkageFrom? target source = none := by
  cases row with
  | primary => rfl
  | foreign table column referencedTable referencedColumn =>
    have hst : table = source ∧ referencedTable = target := by
      by_contra hst
      exact absurd h (by simp [linkageFrom?, hst])
    have hts : ¬ (table = target ∧ referencedTable = source) := by
      rintro ⟨e, -⟩
      exact hne (hst.1.symm.trans e)
    exact if_neg hts

/-- What a row says about two tables is the reverse of what it says about them the other way
round. -/
theorem linkageBetween?_comm {source target : String} (hne : source ≠ target) (row : Row) :
    row.linkageBetween? target source =
      (row.linkageBetween? source target).map Linkage.reverse := by
  unfold linkageBetween?
  cases hst : row.linkageFrom? source target with
  | none =>
    cases row.linkageFrom? target source with
    | none => rfl
    | some l => rfl
  | some l =>
    rw [linkageFrom?_eq_none hne hst]
    rfl

end Catalog.Row

namespace JoinGraph

variable {rows : List Row} {schema : String} {g : JoinGraph} {source target : String} {p : Path}

/-- Whether the linkage between two different tables is the same from both sides, each time read
from the table that is left. -/
def IsSymmetric (g : JoinGraph) : Prop :=
  ∀ source ∈ g.tableNames, ∀ target ∈ g.tableNames, source ≠ target →
    ∀ l, g.linkage? source target = .ok (some l) → g.linkage? target source = .ok (some l.reverse)

/-- Undirected graphs are symmetric. -/
theorem isSymmetric_ofRows (h : ofRows rows schema false = .ok g) : g.IsSymmetric := by
  intro source hs target ht hne l hl
  have hcomm : Row.linkageIn? false target source =
      fun row => (row.linkageIn? false source target).map Linkage.reverse := by
    funext row
    exact row.linkageBetween?_comm hne
  rw [linkage?_ofRows h hs ht, Except.ok.injEq] at hl
  rw [linkage?_ofRows h ht hs, hcomm, ← List.map_filterMap, List.getLast?_map, hl]
  rfl

/-! ## Going back -/

/-- In a symmetric graph, a path on which no table occurs twice can be gone back. -/
theorem Carries.reverse (hg : g.IsSymmetric) (h : g.Carries p) (hnodup : p.names.Nodup) :
    g.Carries p.reverse := by
  obtain ⟨source, hops⟩ := p
  induction hops generalizing source with
  | nil => exact h
  | cons hop hops ih =>
    obtain ⟨l, target⟩ := hop
    obtain ⟨hs, hl, hrest⟩ := carries_cons_iff.1 h
    obtain ⟨hnot, hnodup⟩ := List.nodup_cons.1 hnodup
    have ht : g.table? target.name = some target := hrest.tables _ List.mem_cons_self
    have hne : source.name ≠ target.name := fun e => hnot (e ▸ List.mem_cons_self)
    rw [Path.reverse_cons]
    refine (ih target hrest hnodup).extend hs ?_
    rw [Path.finish_reverse]
    exact hg _ (mem_tableNames_of_table? hs) _ (mem_tableNames_of_table? ht) hne l hl

theorem IsSimpleChain.reverse (hg : g.IsSymmetric) (h : g.Carries p)
    (hchain : g.IsSimpleChain source target p.names) :
    g.Carries p.reverse ∧ g.IsSimpleChain target source p.reverse.names := by
  have hback := h.reverse hg hchain.nodup
  have hnodup : p.reverse.names.Nodup := by
    rw [Path.names_reverse, List.nodup_reverse]
    exact hchain.nodup
  have hends := hback.isSimpleChain hnodup
  have hhead := hchain.head
  have hlast := hchain.last
  rw [Path.head?_names, Option.some.injEq] at hhead
  rw [Path.getLast?_names, Option.some.injEq] at hlast
  rw [Path.start_reverse, Path.finish_reverse, hhead, hlast] at hends
  exact ⟨hback, hends⟩

/-! ## Searching both ways -/

section Searches

variable {there back : List Path}

/-- All simple paths one way, each of them reversed, are all simple paths the other way. -/
theorem perm_map_reverse (hg : g.IsSymmetric)
    (hthere : there.map Path.names = g.simpleChains source target)
    (hcarries : ∀ p ∈ there, g.Carries p)
    (hback : back.map Path.names = g.simpleChains target source)
    (hcarries' : ∀ p ∈ back, g.Carries p) : (there.map Path.reverse).Perm back := by
  have hnodup : there.Nodup := List.Nodup.of_map Path.names (by
    rw [hthere]
    exact nodup_of_pairwise (g.pairwise_simpleChains source target))
  have hnodup' : back.Nodup := List.Nodup.of_map Path.names (by
    rw [hback]
    exact nodup_of_pairwise (g.pairwise_simpleChains target source))
  refine (List.perm_ext_iff_of_nodup (hnodup.map Path.reverse_injective) hnodup').2 fun p => ?_
  rw [mem_iff_of_map_names_eq hback hcarries', List.mem_map]
  constructor
  · rintro ⟨q, hq, rfl⟩
    obtain ⟨hq, hchain⟩ := (mem_iff_of_map_names_eq hthere hcarries).1 hq
    exact hchain.reverse hg hq
  · rintro ⟨hp, hchain⟩
    exact ⟨p.reverse, (mem_iff_of_map_names_eq hthere hcarries).2 (hchain.reverse hg hp),
      p.reverse_reverse⟩

theorem map_length_eq (hg : g.IsSymmetric)
    (hthere : there.map Path.names = g.simpleChains source target)
    (hcarries : ∀ p ∈ there, g.Carries p)
    (hback : back.map Path.names = g.simpleChains target source)
    (hcarries' : ∀ p ∈ back, g.Carries p) :
    there.map Path.length = back.map Path.length := by
  have hperm : (there.map Path.length).Perm (back.map Path.length) := by
    have h := (perm_map_reverse hg hthere hcarries hback hcarries').map Path.length
    have hlength : Path.length ∘ Path.reverse = Path.length := funext Path.length_reverse
    rwa [List.map_map, hlength] at h
  exact hperm.eq_of_pairwise (fun _ _ _ _ => Nat.le_antisymm) (pairwise_map_length hthere)
    (pairwise_map_length hback)

end Searches

theorem length_simpleChains_comm (hg : g.IsSymmetric) (hs : source ∈ g.tableNames)
    (ht : target ∈ g.tableNames) :
    (g.simpleChains source target).length = (g.simpleChains target source).length := by
  obtain ⟨there, hthere, hcarries, -⟩ := exists_findPaths hs ht
  obtain ⟨back, hback, hcarries', -⟩ := exists_findPaths ht hs
  have hperm := (perm_map_reverse hg hthere hcarries hback hcarries').length_eq
  rw [← hthere, ← hback, List.length_map, List.length_map, ← hperm, List.length_map]

/-- In an undirected graph, to reverse paths pairs those that a search for all paths between two
tables finds with those that a search the other way round finds, and with one limit both searches
find paths of the same lengths in the same order. -/
theorem bijOn_reverse_findPaths (h : ofRows rows schema false = .ok g)
    (hs : source ∈ g.tableNames) (ht : target ∈ g.tableNames) :
    (∀ limit limit', (g.simpleChains source target).length ≤ limit →
      (g.simpleChains target source).length ≤ limit' →
        ∃ there back, g.findPaths source target limit = .ok there ∧
          g.findPaths target source limit' = .ok back ∧ there.Nodup ∧ back.Nodup ∧
            Set.BijOn Path.reverse {p | p ∈ there} {p | p ∈ back} ∧
              ∀ p ∈ there, p.reverse.tables = p.tables.reverse ∧
                p.reverse.linkages = (p.linkages.map Linkage.reverse).reverse) ∧
      ∀ limit, ∃ there back, g.findPaths source target limit = .ok there ∧
        g.findPaths target source limit = .ok back ∧ there.length = back.length ∧
          there.map Path.length = back.map Path.length := by
  have hg := isSymmetric_ofRows h
  constructor
  · intro limit limit' hlimit hlimit'
    obtain ⟨there, hthere, hmem⟩ := exists_findPaths_of_le hs ht hlimit
    obtain ⟨back, hback, hmem'⟩ := exists_findPaths_of_le ht hs hlimit'
    refine ⟨there, back, hthere, hback, (nodup_names_findPaths hthere).of_map,
      (nodup_names_findPaths hback).of_map, ⟨fun p hp => ?_, Path.reverse_injective.injOn,
        fun p hp => ?_⟩, fun p _ => ⟨p.tables_reverse, p.linkages_reverse⟩⟩
    · obtain ⟨hp, hchain⟩ := (hmem p).1 hp
      exact (hmem' _).2 (hchain.reverse hg hp)
    · obtain ⟨hp, hchain⟩ := (hmem' p).1 hp
      exact ⟨p.reverse, (hmem _).2 (hchain.reverse hg hp), p.reverse_reverse⟩
  · intro limit
    obtain ⟨there, hthere, hcarries, htake⟩ := exists_findPaths hs ht
    obtain ⟨back, hback, hcarries', htake'⟩ := exists_findPaths ht hs
    have hlengths : (there.take limit).map Path.length = (back.take limit).map Path.length := by
      rw [List.map_take, List.map_take, map_length_eq hg hthere hcarries hback hcarries']
    have hlength := congrArg List.length hlengths
    rw [List.length_map, List.length_map] at hlength
    exact ⟨_, _, htake limit, htake' limit, hlength, hlengths⟩

/-- The one path between two tables that refer to each other, and the way back. -/
theorem bijOn_of_mutualRows :
    ∃ g, ofRows mutualRows "s" false = .ok g ∧
      ∃ there back, g.findPaths "a" "b" (g.simpleChains "a" "b").length = .ok there ∧
        g.findPaths "b" "a" (g.simpleChains "b" "a").length = .ok back ∧
          Set.BijOn Path.reverse {p | p ∈ there} {p | p ∈ back} ∧
            ⟨⟨"a", "id"⟩, [(⟨"id", "y"⟩, ⟨"b", "id"⟩)]⟩ ∈ there ∧
              ⟨⟨"b", "id"⟩, [(⟨"y", "id"⟩, ⟨"a", "id"⟩)]⟩ ∈ back := by
  obtain ⟨g, hg, -, ha, hb, hkeyA, hkeyB, hlink⟩ := exists_ofRows_mutualRows
  obtain ⟨hboth, -⟩ := bijOn_reverse_findPaths hg ha hb
  obtain ⟨there, back, hthere, hback, -, -, hbij, -⟩ := hboth _ _ le_rfl le_rfl
  have hmem : ⟨⟨"a", "id"⟩, [(⟨"id", "y"⟩, ⟨"b", "id"⟩)]⟩ ∈ there := by
    obtain ⟨paths, hpaths, hmem⟩ := exists_findPaths_of_le ha hb le_rfl
    obtain rfl := Except.ok.inj (hthere.symm.trans hpaths)
    exact (hmem _).2 ⟨carries_cons_iff.2 ⟨hkeyA, hlink, carries_nil_iff.2 hkeyB⟩,
      isSimpleChain_pair ha hb (by decide) (isLinked_iff.2 ⟨_, hlink⟩)⟩
  exact ⟨g, hg, there, back, hthere, hback, hbij, hmem, hbij.mapsTo hmem⟩

end JoinGraph

end JoinPaths
