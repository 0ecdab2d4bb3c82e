import JoinPaths.Proofs.Search.Marking
import JoinPaths.Proofs.Search.Turns
import Mathlib.Data.Set.Card
import Mathlib.Data.Set.Finite.List

/-!
# Searches end

Neither the search for trails nor the marking pass before it counts its turns. Both end on every
grid, whether or not it has cycles (`loops_end`).

1. The trails that a search takes ascend, so that no sequence of nodes is taken twice, and each of
   them is along a route (`ComesTo.nodup_nodes`).
2. On a route no node occurs twice. So there are finitely many routes, and a search takes no more
   trails than that (`finite_isRoute`, `ComesTo.length_le_ncard`).
3. In the marking pass no node waits twice (`SpreadsTo.nodup`).
-/

namespace JoinPaths.LinkGrid

variable {n : Nat} {g : LinkGrid n} {start goal : Fin n} {limit : Nat}

/-- A route has no more nodes than the grid. -/
theorem finite_isRoute (g : LinkGrid n) (start : Fin n) : {nodes | g.IsRoute start nodes}.Finite :=
  (List.finite_length_le (Fin n) n).subset fun _ h =>
    h.nodup.length_le_card.trans_eq (Fintype.card_fin n)

namespace ComesTo

variable {taken : List (Trail n)} {s : Search n} {t : Trail n}

theorem isRoute (h : g.ComesTo start goal limit taken s) (ht : t ∈ taken) :
    g.IsRoute start t.nodes :=
  (h.isSimple (List.mem_append_left _ ht)).isRoute

theorem nodup_nodes (h : g.ComesTo start goal limit taken s) : (taken.map Trail.nodes).Nodup := by
  refine nodup_of_pairwise (r := List.Shortlex (· < ·)) (List.pairwise_map.2 ?_)
  exact (List.pairwise_append.1 h.pairwise_before).1

/-- No more trails are taken than there are routes. -/
theorem length_le_ncard (h : g.ComesTo start goal limit taken s) :
    taken.length ≤ {nodes | g.IsRoute start nodes}.ncard := by
  have hsub : ((taken.map Trail.nodes).toFinset : Set (List (Fin n))) ⊆
      {nodes | g.IsRoute start nodes} := by
    intro nodes hnodes
    obtain ⟨t, ht, rfl⟩ := List.mem_map.1 (List.mem_toFinset.1 hnodes)
    exact h.isRoute ht
  calc taken.length = (taken.map Trail.nodes).toFinset.card := by
        rw [List.toFinset_card_of_nodup h.nodup_nodes, List.length_map]
    _ = ((taken.map Trail.nodes).toFinset : Set (List (Fin n))).ncard :=
        (Set.ncard_coe_finset _).symm
    _ ≤ {nodes | g.IsRoute start nodes}.ncard := Set.ncard_le_ncard hsub (g.finite_isRoute start)

end ComesTo

/-- On every grid the search and the marking pass end. Wherever a search is, it has taken trails
along routes, none of them twice, and so no more than there are routes; if it begins, it comes to a
state without a next one, which holds what is found. In the marking pass no node waits twice, and
the pass comes to a state in which no node waits. -/
theorem loops_end (g : LinkGrid n) (start goal : Fin n) (limit : Nat) :
    {nodes | g.IsRoute start nodes}.Finite ∧
    (∀ taken s, g.ComesTo start goal limit taken s →
      (∀ t ∈ taken, g.IsRoute start t.nodes) ∧ (taken.map Trail.nodes).Nodup ∧
        taken.length ≤ {nodes | g.IsRoute start nodes}.ncard) ∧
    (limit ≠ 0 → g.Reaches start goal →
      ∃ s, g.ComesTo start goal limit (g.trailsTaken start goal limit) s ∧
        s.next? g (fun i => (g.reaching goal).get i) goal = none ∧
        s.found.reverse = g.findTrails start goal limit) ∧
    (∀ taken marks waiting, g.SpreadsTo goal taken marks waiting → (taken ++ waiting).Nodup) ∧
    ∃ taken, g.SpreadsTo goal taken (g.reaching goal) [] := by
  refine ⟨g.finite_isRoute start,
    fun taken s h => ⟨fun t ht => h.isRoute ht, h.nodup_nodes, h.length_le_ncard⟩,
    fun hlimit hreach => ?_, fun taken marks waiting h => h.nodup, SpreadsTo.begin.exists_spread⟩
  have hstart := (g.get_reaching goal start).2 hreach
  rw [trailsTaken_of_reaching hlimit hstart, findTrails_of_reaching hlimit hstart]
  exact ⟨_, (ComesTo.begin hlimit hstart).comesTo_run, Search.next?_run g _ goal _, rfl⟩

/-- Among three nodes that are all linked, themselves included, a search ends. -/
theorem search_ends_on_complete :
    ∃ s : Search 3, (complete 3 ⟨"k", "id"⟩).ComesTo 0 2 4
        ((complete 3 ⟨"k", "id"⟩).trailsTaken 0 2 4) s ∧
      s.next? (complete 3 ⟨"k", "id"⟩) (fun i => ((complete 3 ⟨"k", "id"⟩).reaching 2).get i) 2 =
        none ∧
      ((complete 3 ⟨"k", "id"⟩).trailsTaken 0 2 4).length ≤
        {nodes | (complete 3 ⟨"k", "id"⟩).IsRoute 0 nodes}.ncard := by
  obtain ⟨-, hbound, hend, -⟩ := loops_end (complete 3 ⟨"k", "id"⟩) 0 2 4
  obtain ⟨s, hs, hover, -⟩ := hend (by decide) (reaches_complete _ 0 2)
  exact ⟨s, hs, hover, (hbound _ s hs).2.2⟩

end JoinPaths.LinkGrid
