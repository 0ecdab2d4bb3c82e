import JoinPaths.Proofs.Search.Invariant

/-!
# Pruning a search

A search that keeps to nodes from which the goal is reached does less, but it does the same: it
takes the trails that the full search takes, in their order, except those whose last node does not
reach the goal (`findTrails_eq_findTrailsUnpruned`). The two searches are compared step by step.

1. What the pruned search has in its queue are the queued trails of the full search that end at an
   admitted node (`PrunedOf`).
2. Such a trail is taken by both searches, and afterwards the queues are related again
   (`PrunedOf.next?_of_kept`).
3. Any other trail is taken by the full search only. All that grows out of it ends at a node that is
   not admitted either, so that the queues stay related (`PrunedOf.next?_of_not_kept`).
4. A trail that ends at the goal is admitted, so both searches find the same trails.
-/

namespace JoinPaths

variable {n : Nat} {g : LinkGrid n} {keep : Fin n → Bool} {goal : Fin n}

/-- Whether a trail ends at an admitted node. -/
def Trail.endsWithin (keep : Fin n → Bool) (t : Trail n) : Bool :=
  keep t.last

theorem Trail.filter_extensions (g : LinkGrid n) (keep : Fin n → Bool) (t : Trail n) :
    (t.extensions g fun _ => true).filter (endsWithin keep) = t.extensions g keep := by
  unfold extensions
  rw [List.filter_map, List.filter_filter]
  congr 2
  funext e
  show (keep e.1 && (!t.visits e.1 && true)) = (!t.visits e.1 && keep e.1)
  rw [Bool.and_true, Bool.and_comm]

namespace Search

variable {s s' u u' : Search n} {t : Trail n} {rest : List (Trail n)}

/-! ## What a search takes -/

theorem taken_eq_nil (h : s.next? g keep goal = none) : s.taken g keep goal = [] := by
  rw [taken]
  split
  · rfl
  · next hnext =>
    rw [h] at hnext
    cases hnext

theorem taken_eq_cons (h : s.next? g keep goal = some s') (hqueue : s.queue.toList = t :: rest) :
    s.taken g keep goal = t :: s'.taken g keep goal := by
  obtain ⟨⟨t', queue⟩, ht', -⟩ := Option.map_eq_some_iff.1 h
  have hhead := toList_of_take? ht'
  rw [hqueue] at hhead
  obtain ⟨rfl, -⟩ := List.cons.inj hhead
  rw [taken]
  split
  · next hnext =>
    rw [h] at hnext
    cases hnext
  · next hnext =>
    rw [h] at hnext
    obtain rfl := Option.some.inj hnext
    rw [ht']
    rfl

/-- The trails that a search finds are those among the taken ones that end at the goal. -/
theorem reverse_found_run (g : LinkGrid n) (keep : Fin n → Bool) (goal : Fin n) (s : Search n) :
    (s.run g keep goal).found.reverse =
      s.found.reverse ++ (s.taken g keep goal).filter fun t => t.last = goal := by
  fun_induction Search.run g keep goal s with
  | case1 s hnext => rw [taken_eq_nil hnext, List.filter_nil, List.append_nil]
  | case2 s s' hnext ih =>
    obtain ⟨t, queue, -, hqueue, ⟨hgoal, rfl⟩ | ⟨hgoal, rfl⟩⟩ := next?_cases hnext
    · rw [ih, taken_eq_cons hnext hqueue, List.filter_cons_of_pos (by simpa using hgoal),
        List.reverse_cons, List.append_assoc]
      rfl
    · rw [ih, taken_eq_cons hnext hqueue, List.filter_cons_of_neg (by simpa using hgoal)]

/-! ## Two searches at once -/

/-- Whether a search is asked for as many trails as another one, and has in its queue the trails of
the other one that end at an admitted node. -/
structure PrunedOf (keep : Fin n → Bool) (u s : Search n) : Prop where
  room : s.room = u.room
  queue : s.queue.toList = u.queue.toList.filter (Trail.endsWithin keep)

theorem PrunedOf.next?_eq_none (h : PrunedOf keep u s)
    (hnext : u.next? g (fun _ => true) goal = none) : s.next? g keep goal = none := by
  rw [next?_eq_none_iff] at hnext ⊢
  rcases hnext with hroom | hempty
  · exact Or.inl (h.room.trans hroom)
  · right
    rw [h.queue, hempty, List.filter_nil]

theorem PrunedOf.next?_of_kept (h : PrunedOf keep u s)
    (hnext : u.next? g (fun _ => true) goal = some u') (hqueue : u.queue.toList = t :: rest)
    (ht : t.endsWithin keep = true) :
    (∃ others, s.queue.toList = t :: others) ∧
      ∃ s', s.next? g keep goal = some s' ∧ PrunedOf keep u' s' := by
  obtain ⟨v, queue, hroom, hv, hu'⟩ := next?_cases hnext
  obtain ⟨rfl, rfl⟩ := List.cons.inj (hqueue.symm.trans hv)
  have hs := h.queue
  rw [hqueue, List.filter_cons_of_pos ht] at hs
  refine ⟨⟨_, hs⟩, ?_⟩
  cases hs' : s.next? g keep goal with
  | none =>
    rcases next?_eq_none_iff.1 hs' with hnone | hnone
    · exact absurd (h.room.symm.trans hnone) hroom
    · rw [hs] at hnone
      cases hnone
  | some s' =>
    refine ⟨s', rfl, ?_⟩
    obtain ⟨w, others, -, hw, hs'⟩ := next?_cases hs'
    obtain ⟨rfl, hothers⟩ := List.cons.inj (hs.symm.trans hw)
    rcases hu' with ⟨hgoal, rfl⟩ | ⟨hgoal, rfl⟩
    · rcases hs' with ⟨-, rfl⟩ | ⟨hne, -⟩
      · exact ⟨congrArg (· - 1) h.room, hothers.symm⟩
      · exact absurd hgoal hne
    · rcases hs' with ⟨he, -⟩ | ⟨-, rfl⟩
      · exact absurd he hgoal
      · refine ⟨h.room, ?_⟩
        rw [Queue.toList_pushAll, Queue.toList_pushAll, List.filter_append,
          Trail.filter_extensions, hothers]

/-- A trail that does not end at an admitted node is taken by the full search alone, if only admitted
nodes lead to admitted ones and the goal is one of them. -/
theorem PrunedOf.next?_of_not_kept (hclosed : ∀ i j, g.Linked i j → keep j = true → keep i = true)
    (hgoal : keep goal = true) (h : PrunedOf keep u s)
    (hnext : u.next? g (fun _ => true) goal = some u') (hqueue : u.queue.toList = t :: rest)
    (ht : ¬ t.endsWithin keep = true) : PrunedOf keep u' s := by
  obtain ⟨v, queue, -, hv, ⟨hlast, -⟩ | ⟨-, rfl⟩⟩ := next?_cases hnext
  · obtain ⟨rfl, -⟩ := List.cons.inj (hqueue.symm.trans hv)
    rw [← hlast] at hgoal
    exact absurd hgoal ht
  · obtain ⟨rfl, rfl⟩ := List.cons.inj (hqueue.symm.trans hv)
    have hnone : t.extensions g keep = [] := by
      refine List.eq_nil_iff_forall_not_mem.2 fun w hw => ?_
      obtain ⟨l, i, hl, -, hi, -⟩ := Trail.mem_extensions.1 hw
      exact ht (hclosed t.last i (LinkGrid.linked_of_get hl) hi)
    refine ⟨h.room, ?_⟩
    rw [h.queue, hqueue, List.filter_cons_of_neg ht, Queue.toList_pushAll, List.filter_append,
      Trail.filter_extensions, hnone, List.append_nil]

/-- A pruned search takes what the full search takes of trails that end at an admitted node. -/
theorem PrunedOf.taken_eq (hclosed : ∀ i j, g.Linked i j → keep j = true → keep i = true)
    (hgoal : keep goal = true) (h : PrunedOf keep u s) :
    s.taken g keep goal = (u.taken g (fun _ => true) goal).filter (Trail.endsWithin keep) := by
  induction u using Search.taken.induct g (fun _ => true) goal generalizing s with
  | case1 u hnext =>
    rw [taken_eq_nil hnext, taken_eq_nil (h.next?_eq_none hnext), List.filter_nil]
  | case2 u u' hnext ih =>
    obtain ⟨t, queue, -, hqueue, -⟩ := next?_cases hnext
    rw [taken_eq_cons hnext hqueue]
    by_cases ht : t.endsWithin keep = true
    · obtain ⟨⟨others, hs⟩, s', hs', hpruned⟩ := h.next?_of_kept hnext hqueue ht
      rw [List.filter_cons_of_pos ht, taken_eq_cons hs' hs, ih hpruned]
    · rw [List.filter_cons_of_neg ht]
      exact ih (h.next?_of_not_kept hclosed hgoal hnext hqueue ht)

end Search

namespace LinkGrid

instance (g : LinkGrid n) (i goal : Fin n) : Decidable (g.Reaches i goal) :=
  decidable_of_iff _ (g.get_reaching goal i)

/-- The first `limit` trails from `start` to `goal`, found without asking which nodes reach the
goal. -/
def findTrailsUnpruned (g : LinkGrid n) (start goal : Fin n) (limit : Nat) : List (Trail n) :=
  if limit = 0 then [] else g.findTrailsWithin (fun _ => true) start goal limit

/-- The trails that `findTrails` takes from its queue, in order. -/
def trailsTaken (g : LinkGrid n) (start goal : Fin n) (limit : Nat) : List (Trail n) :=
  let marks := g.reaching goal
  if limit = 0 ∨ marks.get start = false then []
  else (Search.begin start limit).taken g (fun i => marks.get i) goal

theorem trailsTaken_of_reaching {g : LinkGrid n} {start : Fin n} {limit : Nat}
    (hlimit : limit ≠ 0) (hstart : (g.reaching goal).get start = true) :
    g.trailsTaken start goal limit =
      (Search.begin start limit).taken g (fun i => (g.reaching goal).get i) goal :=
  if_neg (not_or.2 ⟨hlimit, by rw [hstart]; nofun⟩)

/-- The trails that `findTrailsUnpruned` takes from its queue, in order. -/
def trailsTakenUnpruned (g : LinkGrid n) (start goal : Fin n) (limit : Nat) : List (Trail n) :=
  if limit = 0 then [] else (Search.begin start limit).taken g (fun _ => true) goal

theorem findTrailsWithin_eq_filter (g : LinkGrid n) (keep : Fin n → Bool) (start goal : Fin n)
    (limit : Nat) :
    g.findTrailsWithin keep start goal limit =
      ((Search.begin start limit).taken g keep goal).filter fun t => t.last = goal :=
  Search.reverse_found_run g keep goal (Search.begin start limit)

theorem findTrails_eq_filter (g : LinkGrid n) (start goal : Fin n) (limit : Nat) :
    g.findTrails start goal limit =
      (g.trailsTaken start goal limit).filter fun t => t.last = goal := by
  unfold findTrails trailsTaken
  dsimp only
  split
  · rfl
  · exact g.findTrailsWithin_eq_filter _ start goal limit

theorem findTrailsUnpruned_eq_filter (g : LinkGrid n) (start goal : Fin n) (limit : Nat) :
    g.findTrailsUnpruned start goal limit =
      (g.trailsTakenUnpruned start goal limit).filter fun t => t.last = goal := by
  unfold findTrailsUnpruned trailsTakenUnpruned
  split
  · rfl
  · exact g.findTrailsWithin_eq_filter _ start goal limit

theorem trailsTaken_eq_filter_endsWithin (g : LinkGrid n) (start goal : Fin n) (limit : Nat) :
    g.trailsTaken start goal limit =
      (g.trailsTakenUnpruned start goal limit).filter
        (Trail.endsWithin fun i => (g.reaching goal).get i) := by
  have hclosed : ∀ i j : Fin n, g.Linked i j → (g.reaching goal).get j = true →
      (g.reaching goal).get i = true := by
    intro i j hij hj
    rw [get_reaching] at hj ⊢
    exact hj.head hij
  have hgoal : (g.reaching goal).get goal = true := (g.get_reaching goal goal).2 .refl
  unfold trailsTakenUnpruned
  by_cases hlimit : limit = 0
  · rw [trailsTaken, if_pos (Or.inl hlimit), if_pos hlimit, List.filter_nil]
  · rw [if_neg hlimit]
    have hbegin : (Search.begin start limit).queue.toList = [.start start] :=
      Queue.toList_ofList _
    cases hstart : (g.reaching goal).get start with
    | true =>
      have hkept : Trail.endsWithin (fun i => (g.reaching goal).get i) (.start start) = true :=
        hstart
      rw [trailsTaken_of_reaching hlimit hstart]
      refine Search.PrunedOf.taken_eq hclosed hgoal ⟨rfl, ?_⟩
      rw [hbegin, List.filter_cons_of_pos hkept, List.filter_nil]
    | false =>
      have hleft : ¬ Trail.endsWithin (fun i => (g.reaching goal).get i) (.start start) = true :=
        (Bool.not_eq_true _).mpr hstart
      -- a search with an empty queue is what is left of the full one
      have hempty : Search.PrunedOf (fun i => (g.reaching goal).get i)
          (Search.begin start limit) ⟨.ofList [], [], limit⟩ := by
        refine ⟨rfl, ?_⟩
        rw [hbegin, List.filter_cons_of_neg hleft]
        rfl
      rw [trailsTaken, if_pos (Or.inr hstart), ← hempty.taken_eq hclosed hgoal,
        Search.taken_eq_nil]
      exact Search.next?_eq_none_iff.2 (Or.inr rfl)

/-- Of the trails that the full search takes, the search takes those from whose last node the goal
is reached. -/
theorem trailsTaken_eq_filter (g : LinkGrid n) (start goal : Fin n) (limit : Nat) :
    g.trailsTaken start goal limit =
      (g.trailsTakenUnpruned start goal limit).filter fun t => g.Reaches t.last goal := by
  rw [trailsTaken_eq_filter_endsWithin]
  apply List.filter_congr
  intro t _
  show (g.reaching goal).get t.last = decide (g.Reaches t.last goal)
  rw [Bool.eq_iff_iff, decide_eq_true_iff, get_reaching]

/-- Pruning changes neither which trails are found nor their order, and the trails that it leaves
out are those from whose last node the goal is not reached. -/
theorem findTrails_eq_findTrailsUnpruned (g : LinkGrid n) (start goal : Fin n) (limit : Nat) :
    g.findTrails start goal limit = g.findTrailsUnpruned start goal limit ∧
      g.trailsTaken start goal limit =
        (g.trailsTakenUnpruned start goal limit).filter fun t => g.Reaches t.last goal := by
  refine ⟨?_, g.trailsTaken_eq_filter start goal limit⟩
  rw [findTrails_eq_filter, findTrailsUnpruned_eq_filter, trailsTaken_eq_filter, List.filter_filter]
  congr 1
  funext t
  by_cases h : t.last = goal
  · have hreach : g.Reaches t.last goal := h ▸ .refl
    simp only [h, decide_true, Bool.true_and]
    rw [h] at hreach
    exact decide_eq_true hreach
  · simp only [h, decide_false, Bool.false_and]

end LinkGrid

end JoinPaths
