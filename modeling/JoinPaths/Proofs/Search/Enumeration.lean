import JoinPaths.Proofs.Search.Invariant

/-!
# A search enumerates the simple trails

There is one list of all simple trails between two nodes, shorter ones first, and every search
gives its first members, as many as were asked for (`exists_findTrailsWithin`). To keep to nodes
that reach the goal leaves none of them out, since the goal is reached from every node of a trail
that ends there (`exists_findTrails`).
-/

namespace JoinPaths

variable {n : Nat} {g : LinkGrid n} {keep : Fin n → Bool} {start goal : Fin n}

namespace LinkGrid

theorem invariant_findTrailsWithin (h : keep start = true) (goal : Fin n) (limit : Nat) :
    ((Search.begin start limit).run g keep goal).Invariant g keep start goal :=
  (Search.invariant_begin h limit).run

theorem pairwise_findTrailsWithin (h : keep start = true) (goal : Fin n) (limit : Nat) :
    (g.findTrailsWithin keep start goal limit).Pairwise Trail.Before :=
  List.pairwise_reverse.2 (invariant_findTrailsWithin h goal limit).found_ordered

theorem of_mem_findTrailsWithin (h : keep start = true) {limit : Nat} {t : Trail n}
    (ht : t ∈ g.findTrailsWithin keep start goal limit) :
    t.IsSimple g keep start ∧ t.last = goal :=
  (invariant_findTrailsWithin h goal limit).found t (List.mem_reverse.1 ht)

theorem length_findTrailsWithin_le (g : LinkGrid n) (keep : Fin n → Bool) (start goal : Fin n)
    (limit : Nat) :
    (g.findTrailsWithin keep start goal limit).length ≤ limit := by
  have h := Search.length_found_add_room_run g keep goal (Search.begin start limit)
  unfold findTrailsWithin
  rw [List.length_reverse]
  simp only [Search.begin, List.length_nil] at h ⊢
  omega

theorem length_findTrailsWithin_le_weight (g : LinkGrid n) (keep : Fin n → Bool)
    (start goal : Fin n) (limit : Nat) :
    (g.findTrailsWithin keep start goal limit).length ≤ (Trail.start start).weight := by
  have h := Search.length_found_run_le g keep goal (Search.begin start limit)
  unfold findTrailsWithin
  rw [List.length_reverse]
  simp only [Search.begin, Search.weight, Queue.toList_ofList, total, List.length_nil] at h ⊢
  omega

/-- A simple trail that is not found is behind all that are, and as many as asked for are found. -/
theorem of_not_mem_findTrailsWithin (h : keep start = true) {limit : Nat} {t : Trail n}
    (ht : t.IsSimple g keep start) (hgoal : t.last = goal)
    (hnot : t ∉ g.findTrailsWithin keep start goal limit) :
    (g.findTrailsWithin keep start goal limit).length = limit ∧
      ∀ u ∈ g.findTrailsWithin keep start goal limit, u.Before t := by
  have hinv := invariant_findTrailsWithin (g := g) h goal limit
  rw [findTrailsWithin, List.mem_reverse] at hnot
  obtain hfound | ⟨u, hu, hpre⟩ := hinv.complete t ht hgoal
  · exact absurd hfound hnot
  · have hlen := Search.length_found_add_room_run g keep goal (Search.begin start limit)
    rw [findTrailsWithin, List.length_reverse]
    constructor
    · rcases Search.next?_eq_none_iff.1 (Search.next?_run g keep goal
        (Search.begin start limit)) with hroom | hempty
      · rw [hroom] at hlen
        simpa [Search.begin] using hlen
      · rw [hempty] at hu
        exact absurd hu List.not_mem_nil
    · intro v hv
      obtain ⟨rest, hrest⟩ := hpre
      have hvu : v.Before u := hinv.found_before v (List.mem_reverse.1 hv) u hu
      unfold Trail.Before
      rw [← hrest]
      exact hvu.append_right rest

theorem exists_findTrailsWithin (g : LinkGrid n) (keep : Fin n → Bool) (h : keep start = true)
    (goal : Fin n) :
    ∃ all : List (Trail n), all.Pairwise Trail.Before ∧
      (∀ t, t ∈ all ↔ t.IsSimple g keep start ∧ t.last = goal) ∧
        ∀ limit, g.findTrailsWithin keep start goal limit = all.take limit := by
  -- with more room than a search can use, nothing is left out
  let room := (Trail.start start).weight + 1
  have hall : ∀ t, t ∈ g.findTrailsWithin keep start goal room ↔
      t.IsSimple g keep start ∧ t.last = goal := by
    intro t
    constructor
    · exact of_mem_findTrailsWithin h
    · intro ht
      by_contra hnot
      have hroom := (of_not_mem_findTrailsWithin h ht.1 ht.2 hnot).1
      have hweight := g.length_findTrailsWithin_le_weight keep start goal room
      omega
  refine ⟨g.findTrailsWithin keep start goal room, pairwise_findTrailsWithin h goal room, hall,
    fun limit => ?_⟩
  refine eq_take_of_forall_mem (pairwise_findTrailsWithin h goal room)
    (pairwise_findTrailsWithin h goal limit)
    (fun t ht => (hall t).2 (of_mem_findTrailsWithin h ht))
    (g.length_findTrailsWithin_le keep start goal limit) ?_
  intro t ht hnot
  exact of_not_mem_findTrailsWithin h ((hall t).1 ht).1 ((hall t).1 ht).2 hnot

/-- To keep to nodes from which the goal is reached excludes no trail to the goal. -/
theorem isSimple_reaching_iff {t : Trail n} (hgoal : t.last = goal) :
    t.IsSimple g (fun i => (g.reaching goal).get i) start ↔ t.IsSimple g (fun _ => true) start := by
  constructor
  · intro h
    exact ⟨h.first_eq, h.follows, h.nodup, fun _ _ => rfl⟩
  · intro h
    refine ⟨h.first_eq, h.follows, h.nodup, fun i hi => ?_⟩
    rw [get_reaching, ← hgoal]
    exact h.follows.reaches_last hi

/-- Searches with any limit go through the same list of all simple trails. -/
theorem exists_findTrails (g : LinkGrid n) (start goal : Fin n) :
    ∃ all : List (Trail n), all.Pairwise Trail.Before ∧
      (∀ t, t ∈ all ↔ t.IsSimple g (fun _ => true) start ∧ t.last = goal) ∧
        ∀ limit, g.findTrails start goal limit = all.take limit := by
  cases hstart : (g.reaching goal).get start with
  | false =>
    refine ⟨[], .nil, fun t => ⟨fun h => absurd h List.not_mem_nil, ?_⟩, fun limit => ?_⟩
    · rintro ⟨ht, hgoal⟩
      have hreach := (isSimple_reaching_iff hgoal).2 ht
      have hmark := hreach.kept _ t.first_mem_nodes
      rw [ht.first_eq, hstart] at hmark
      exact absurd hmark Bool.false_ne_true
    · rw [List.take_nil, findTrails, if_pos (Or.inr hstart)]
  | true =>
    obtain ⟨all, hall, hmem, htake⟩ :=
      g.exists_findTrailsWithin (fun i => (g.reaching goal).get i) hstart goal
    refine ⟨all, hall, fun t => ?_, fun limit => ?_⟩
    · rw [hmem]
      exact and_congr_left isSimple_reaching_iff
    · by_cases hlimit : limit = 0
      · rw [hlimit, List.take_zero, findTrails, if_pos (Or.inl rfl)]
      · rw [← htake, findTrails_of_reaching hlimit hstart]

end LinkGrid

end JoinPaths
