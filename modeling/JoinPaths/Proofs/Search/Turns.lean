import JoinPaths.Proofs.Search.Enumeration
import JoinPaths.Proofs.Search.Pruning

/-!
# The turns of a search

A search takes one trail at every turn. `LinkGrid.ComesTo` says which states it comes to and which
trails it has taken by then. At every turn the queue is in order, and no route to the goal is lost
(`queue_of_comesTo`).

1. The invariant of a search holds before the first turn and every turn keeps it, so it holds at all
   of them (`ComesTo.invariant`).
2. A trail that is taken leaves its extensions at the end of the queue
   (`Search.cons_toList_next?`). So the trails taken, with the queued ones behind them, are all that
   were ever queued, and they are simple and in ascending order (`ComesTo.isSimple`,
   `ComesTo.pairwise_before`).
3. Wherever a search is, it goes on to its end (`ComesTo.comesTo_run`).
-/

namespace JoinPaths

variable {n : Nat} {g : LinkGrid n} {start goal : Fin n} {limit : Nat}

/-! ## Routes -/

/-- Nodes that lead on from `start`, each linked to the next one and none of them twice. -/
structure LinkGrid.IsRoute (g : LinkGrid n) (start : Fin n) (nodes : List (Fin n)) : Prop where
  head : nodes.head? = some start
  nodup : nodes.Nodup
  linked : nodes.IsChain g.Linked

namespace Trail

variable {t u : Trail n}

theorem IsSimple.isRoute {keep : Fin n → Bool} (h : t.IsSimple g keep start) :
    g.IsRoute start t.nodes where
  head := by rw [head?_nodes, h.first_eq]
  nodup := h.nodup
  linked := h.follows.isChain

theorem exists_isSimple_of_isRoute {nodes : List (Fin n)} (h : g.IsRoute start nodes) :
    ∃ t : Trail n, t.IsSimple g (fun _ => true) start ∧ t.nodes = nodes := by
  have hne : nodes ≠ [] := by
    rintro rfl
    cases h.head
  obtain ⟨t, ht, rfl⟩ := exists_follows hne h.linked
  have hfirst := h.head
  rw [head?_nodes, Option.some.injEq] at hfirst
  exact ⟨t, ⟨hfirst, ht, h.nodup, fun _ _ => rfl⟩, rfl⟩

/-! ## Linkages and lengths -/

theorem length_nodes (t : Trail n) : t.nodes.length = t.linkages.length + 1 := by
  induction t with
  | start i => rfl
  | step t l i ih => rw [length_nodes_step, linkages, List.length_append, List.length_singleton, ih]

theorem Follows.get_eq (h : t.Follows g) {k : Nat} {i j : Fin n} (hi : t.nodes[k]? = some i)
    (hj : t.nodes[k + 1]? = some j) : g.get i j = t.linkages[k]? := by
  induction t with
  | start m => cases hj
  | step t l m ih =>
    have hlen := t.length_nodes
    obtain ⟨hk, -⟩ := List.getElem?_eq_some_iff.1 hj
    rw [length_nodes_step] at hk
    rw [nodes, List.getElem?_append_left (by omega)] at hi
    by_cases hlast : k + 1 < t.nodes.length
    · rw [nodes, List.getElem?_append_left hlast] at hj
      rw [linkages, List.getElem?_append_left (by omega)]
      exact ih h.1 hi hj
    · -- the last link of the trail
      obtain rfl : k = t.linkages.length := by omega
      rw [nodes, ← hlen, List.getElem?_concat_length, Option.some.injEq] at hj
      have hend := t.getLast?_nodes
      rw [List.getLast?_eq_getElem?, hlen, Nat.add_sub_cancel, hi, Option.some.injEq] at hend
      rw [linkages, List.getElem?_concat_length, hend, ← hj]
      exact h.2

theorem Ahead.length_le (h : t.Ahead u) :
    t.nodes.length ≤ u.nodes.length + 1 ∧ u.nodes.length ≤ t.nodes.length + 1 := by
  rcases h with ⟨hlen, -⟩ | ⟨hlen, -⟩ <;> omega

/-- Trails that wait at one time differ in length by one node at most. -/
theorem length_nodes_le_of_pairwise_ahead {queue : List (Trail n)} (h : queue.Pairwise Ahead)
    (ht : t ∈ queue) (hu : u ∈ queue) : t.nodes.length ≤ u.nodes.length + 1 :=
  (h.imp fun h => h.length_le.1).forall_of_forall_of_flip (fun _ _ => Nat.le_succ _)
    (h.imp fun h => h.length_le.2) ht hu

end Trail

/-! ## The states of a search -/

/-- A trail that is taken leaves its extensions at the end of the queue, unless it is found. -/
theorem Search.cons_toList_next? {keep : Fin n → Bool} {s s' : Search n} {t : Trail n}
    {queue : Queue (Trail n)} (htake : s.take? = some (t, queue))
    (hnext : s.next? g keep goal = some s') :
    t :: s'.queue.toList =
      s.queue.toList ++ if t.last = goal then [] else t.extensions g keep := by
  rw [next?, htake, Option.map_some, Option.some.injEq] at hnext
  dsimp only at hnext
  rw [toList_of_take? htake, ← hnext]
  by_cases hgoal : t.last = goal
  · rw [if_pos hgoal, if_pos hgoal, List.append_nil]
  · rw [if_neg hgoal, if_neg hgoal, Queue.toList_pushAll, List.cons_append]

namespace LinkGrid

/-- Whether the search for trails from `start` to `goal` comes to a state, and which trails it has
taken by then. It does not begin if no trail is asked for or the goal is not reached. -/
inductive ComesTo (g : LinkGrid n) (start goal : Fin n) (limit : Nat) :
    List (Trail n) → Search n → Prop
  | begin (hlimit : limit ≠ 0) (hstart : (g.reaching goal).get start = true) :
      ComesTo g start goal limit [] (.begin start limit)
  | turn {taken : List (Trail n)} {s s' : Search n} {t : Trail n} {queue : Queue (Trail n)}
      (h : ComesTo g start goal limit taken s) (htake : s.take? = some (t, queue))
      (hnext : s.next? g (fun i => (g.reaching goal).get i) goal = some s') :
      ComesTo g start goal limit (taken ++ [t]) s'

namespace ComesTo

variable {taken : List (Trail n)} {s : Search n}

theorem invariant (h : g.ComesTo start goal limit taken s) :
    s.Invariant g (fun i => (g.reaching goal).get i) start goal := by
  induction h with
  | begin hlimit hstart => exact Search.invariant_begin hstart limit
  | turn h htake hnext ih => exact ih.next? hnext

theorem isSimple (h : g.ComesTo start goal limit taken s) {t : Trail n}
    (ht : t ∈ taken ++ s.queue.toList) :
    t.IsSimple g (fun i => (g.reaching goal).get i) start := by
  induction h generalizing t with
  | begin hlimit hstart =>
    rw [List.mem_singleton.1 ht]
    exact Trail.isSimple_start hstart
  | @turn taken s s' u queue h htake hnext ih =>
    rw [← List.append_cons, Search.cons_toList_next? htake hnext, ← List.append_assoc,
      List.mem_append] at ht
    rcases ht with ht | ht
    · exact ih ht
    · have hu : u ∈ taken ++ s.queue.toList := by
        rw [Search.toList_of_take? htake]
        exact List.mem_append_right _ List.mem_cons_self
      split at ht
      · cases ht
      · exact (ih hu).of_mem_extensions ht

theorem pairwise_before (h : g.ComesTo start goal limit taken s) :
    (taken ++ s.queue.toList).Pairwise Trail.Before := by
  induction h with
  | begin hlimit hstart => exact List.pairwise_singleton _ _
  | @turn taken s s' t queue h htake hnext ih =>
    have hqueue := Search.toList_of_take? htake
    have hahead := h.invariant.ahead
    rw [← List.append_cons, Search.cons_toList_next? htake hnext, ← List.append_assoc]
    split
    · rwa [List.append_nil]
    · refine List.pairwise_append.2 ⟨ih, ?_, fun u hu v hv => ?_⟩
      · exact (t.pairwise_ahead_extensions g _).imp Trail.Ahead.before
      · -- what was queued so far was taken before, is taken now, or still waits
        rw [hqueue] at ih hu hahead
        rcases List.mem_append.1 hu with hu | hu
        · have htu : u.Before t := (List.pairwise_append.1 ih).2.2 u hu t List.mem_cons_self
          exact htu.trans (Trail.before_of_mem_extensions hv)
        · rcases List.mem_cons.1 hu with rfl | hu
          · exact Trail.before_of_mem_extensions hv
          · exact (((List.pairwise_cons.1 hahead).1 u hu).ahead_extension hv).before

/-- Wherever a search is, it goes on to its end. -/
theorem comesTo_run (h : g.ComesTo start goal limit taken s) :
    g.ComesTo start goal limit (taken ++ s.taken g (fun i => (g.reaching goal).get i) goal)
      (s.run g (fun i => (g.reaching goal).get i) goal) := by
  fun_induction Search.run g (fun i => (g.reaching goal).get i) goal s generalizing taken with
  | case1 s hnext => rwa [Search.taken_eq_nil hnext, List.append_nil]
  | case2 s s' hnext ih =>
    obtain ⟨⟨t, queue⟩, htake, -⟩ := Option.map_eq_some_iff.1 hnext
    rw [Search.taken_eq_cons hnext (Search.toList_of_take? htake), List.append_cons]
    exact ih (h.turn htake hnext)

end ComesTo

/-! ## A grid with all links -/

/-- The grid in which every node is linked to every node, itself included. -/
def complete (n : Nat) (l : Linkage) : LinkGrid n :=
  ⟨Vector.replicate (n * n) (some l)⟩

theorem linked_complete (l : Linkage) (i j : Fin n) : (complete n l).Linked i j := by
  simp [Linked, get, complete]

theorem reaches_complete (l : Linkage) (i j : Fin n) : (complete n l).Reaches i j :=
  .single (linked_complete l i j)

theorem get_reaching_complete (l : Linkage) (goal : Fin n) :
    (fun i => ((complete n l).reaching goal).get i) = fun _ => true :=
  funext fun i => (get_reaching _ goal i).2 (reaches_complete l i goal)

/-! ## What a queue holds -/

/-- At every turn the queued trails begin at `start` and go along the links of the grid, to no node
twice and only to nodes from which the goal is reached. They wait in ascending order, their lengths
differ by one at most, and what is found is before all of them. Every route to the goal is found or
goes on from a queued trail. -/
theorem queue_of_comesTo {taken : List (Trail n)} {s : Search n}
    (h : g.ComesTo start goal limit taken s) :
    (∀ t ∈ s.queue.toList,
      t.nodes.head? = some start ∧
      (∀ i, t.visits i = true ↔ i ∈ t.nodes) ∧
      t.nodes.Nodup ∧
      (t.nodes.length = t.linkages.length + 1 ∧
        ∀ k i j, t.nodes[k]? = some i → t.nodes[k + 1]? = some j → g.get i j = t.linkages[k]?) ∧
      ∀ i ∈ t.nodes, g.Reaches i goal) ∧
    s.queue.toList.Pairwise Trail.Before ∧
    (∀ t ∈ s.queue.toList, ∀ u ∈ s.queue.toList, t.nodes.length ≤ u.nodes.length + 1) ∧
    (∀ t ∈ s.found, ∀ u ∈ s.queue.toList, t.Before u) ∧
    ∀ nodes, g.IsRoute start nodes → nodes.getLast? = some goal →
      (∃ t ∈ s.found, t.nodes = nodes) ∨ ∃ t ∈ s.queue.toList, t.nodes <+: nodes := by
  have hinv := h.invariant
  refine ⟨fun t ht => ?_, hinv.ahead.imp Trail.Ahead.before,
    fun t ht u hu => Trail.length_nodes_le_of_pairwise_ahead hinv.ahead ht hu, hinv.found_before,
    fun nodes hroute hlast => ?_⟩
  · have hsimple := hinv.queued t ht
    refine ⟨hsimple.isRoute.head, fun i => Trail.visits_iff, hsimple.nodup,
      ⟨t.length_nodes, fun k i j => hsimple.follows.get_eq⟩, fun i hi => ?_⟩
    exact (g.get_reaching goal i).1 (hsimple.kept i hi)
  · obtain ⟨t, ht, rfl⟩ := Trail.exists_isSimple_of_isRoute hroute
    rw [Trail.getLast?_nodes, Option.some.injEq] at hlast
    rcases hinv.complete t ((isSimple_reaching_iff hlast).2 ht) hlast with hfound | hqueued
    · exact Or.inl ⟨t, hfound, rfl⟩
    · exact Or.inr hqueued

/-- Among three nodes that are all linked, after two turns a trail of two nodes is queued before one
of three, and the longer way to the goal goes on from one of them. -/
theorem queue_of_twoTurns :
    ∃ s : Search 3,
      (complete 3 ⟨"k", "id"⟩).ComesTo 0 2 4 [.start 0, .step (.start 0) ⟨"k", "id"⟩ 1] s ∧
      s.queue.toList.map Trail.nodes = [[0, 2], [0, 1, 2]] ∧
      s.queue.toList.Pairwise Trail.Before ∧
      ∃ t ∈ s.queue.toList, t.nodes <+: [0, 1, 2] := by
  have hbegin : (complete 3 ⟨"k", "id"⟩).ComesTo 0 2 4 [] (.begin 0 4) :=
    .begin (by decide) ((get_reaching _ 2 0).2 (reaches_complete _ 0 2))
  have hsecond : (complete 3 ⟨"k", "id"⟩).ComesTo 0 2 4
      [.start 0, .step (.start 0) ⟨"k", "id"⟩ 1]
      ⟨⟨[.step (.start 0) ⟨"k", "id"⟩ 2],
        [.step (.step (.start 0) ⟨"k", "id"⟩ 1) ⟨"k", "id"⟩ 2]⟩, [], 4⟩ :=
    (hbegin.turn rfl (by rw [get_reaching_complete]; rfl)).turn rfl
      (by rw [get_reaching_complete]; rfl)
  have hroute : (complete 3 ⟨"k", "id"⟩).IsRoute 0 [0, 1, 2] :=
    ⟨rfl, by decide, .cons_cons (linked_complete _ 0 1)
      (.cons_cons (linked_complete _ 1 2) (.singleton 2))⟩
  obtain ⟨-, hpairwise, -, -, hroutes⟩ := queue_of_comesTo hsecond
  rcases hroutes [0, 1, 2] hroute rfl with ⟨t, ht, -⟩ | hqueued
  · cases ht
  · exact ⟨_, hsecond, rfl, hpairwise, hqueued⟩

end LinkGrid

end JoinPaths
