import JoinPaths.Search.Basic
import JoinPaths.Proofs.Search.Trail

/-!
# What holds at every step of a search

`Search.Invariant` says what holds of the queue and of the trails found: all of them are simple, the
queue is ordered, what is found is before what is queued, and no simple trail to the goal is lost.
It holds before the first step (`invariant_begin`), every step keeps it (`Invariant.next?`), and so
it holds when the search is over (`Invariant.run`). There are three ways a step could break it.

1. The trail taken is the oldest one, so it is behind what is found and before the others.
2. Its extensions join the queue behind trails that are ahead of them (`Ahead.ahead_extension`).
3. A simple trail that goes on from the trail taken goes on from one of the extensions, or it is the
   trail taken and is found now.
-/

namespace JoinPaths

variable {n : Nat} {g : LinkGrid n} {keep : Fin n → Bool} {start goal : Fin n}

namespace Search

/-- What holds at every step of the search for trails from `start` to `goal`. -/
structure Invariant (g : LinkGrid n) (keep : Fin n → Bool) (start goal : Fin n) (s : Search n) :
    Prop where
  queued : ∀ t ∈ s.queue.toList, t.IsSimple g keep start
  /-- Trails that are found are simple and end at the goal. -/
  found : ∀ t ∈ s.found, t.IsSimple g keep start ∧ t.last = goal
  ahead : s.queue.toList.Pairwise Trail.Ahead
  found_ordered : s.found.Pairwise fun t u => u.Before t
  found_before : ∀ t ∈ s.found, ∀ u ∈ s.queue.toList, t.Before u
  /-- A simple trail to the goal is found, or goes on from a queued one. -/
  complete : ∀ t : Trail n, t.IsSimple g keep start → t.last = goal →
    t ∈ s.found ∨ ∃ u ∈ s.queue.toList, u.nodes <+: t.nodes

/-- What a step does: the oldest trail is found, or it is replaced by its extensions. -/
theorem next?_cases {s s' : Search n} (h : s.next? g keep goal = some s') :
    ∃ t queue, s.room ≠ 0 ∧ s.queue.toList = t :: queue.toList ∧
      (t.last = goal ∧ s' = ⟨queue, t :: s.found, s.room - 1⟩ ∨
        t.last ≠ goal ∧ s' = { s with queue := queue.pushAll (t.extensions g keep) }) := by
  obtain ⟨⟨t, queue⟩, ht, rfl⟩ := Option.map_eq_some_iff.1 h
  refine ⟨t, queue, fun hroom => ?_, toList_of_take? ht, ?_⟩
  · rw [take?, if_pos hroom] at ht
    exact absurd ht (by simp)
  · by_cases hgoal : t.last = goal
    · exact Or.inl ⟨hgoal, if_pos hgoal⟩
    · exact Or.inr ⟨hgoal, if_neg hgoal⟩

theorem invariant_begin (h : keep start = true) (limit : Nat) :
    Invariant g keep start goal (begin start limit) := by
  have hqueue : (begin start limit).queue.toList = [.start start] := Queue.toList_ofList _
  refine ⟨fun t ht => ?_, fun t ht => absurd ht List.not_mem_nil, ?_, .nil,
    fun t ht => absurd ht List.not_mem_nil, fun t ht _ => Or.inr ⟨.start start, ?_, ?_⟩⟩
  · rw [hqueue, List.mem_singleton] at ht
    rw [ht]
    exact Trail.isSimple_start h
  · rw [hqueue]
    exact List.pairwise_singleton _ _
  · rw [hqueue]
    exact List.mem_singleton.2 rfl
  · have hhead := t.head?_nodes
    obtain ⟨i, rest, hnodes⟩ := List.exists_cons_of_ne_nil t.nodes_ne_nil
    rw [hnodes, List.head?_cons, Option.some.injEq, ht.first_eq] at hhead
    exact ⟨rest, by rw [hnodes, hhead]; rfl⟩

section Step

variable {s : Search n} {t : Trail n} {queue : Queue (Trail n)}

/-- What is queued is the trail that is taken, or it is queued afterwards. -/
theorem mem_queue_iff (hqueue : s.queue.toList = t :: queue.toList) {u : Trail n} :
    u ∈ s.queue.toList ↔ u = t ∨ u ∈ queue.toList := by
  rw [hqueue]
  exact List.mem_cons

theorem Invariant.find (h : s.Invariant g keep start goal)
    (hqueue : s.queue.toList = t :: queue.toList) (hgoal : t.last = goal) (room : Nat) :
    Invariant g keep start goal ⟨queue, t :: s.found, room⟩ := by
  have hmem : t ∈ s.queue.toList := (mem_queue_iff hqueue).2 (Or.inl rfl)
  have hothers : ∀ u ∈ queue.toList, u ∈ s.queue.toList := by
    intro u hu
    exact (mem_queue_iff hqueue).2 (Or.inr hu)
  have hahead := h.ahead
  rw [hqueue, List.pairwise_cons] at hahead
  refine ⟨fun u hu => h.queued u (hothers u hu), fun u hu => ?_, hahead.2, ?_, fun u hu v hv => ?_,
    fun u hu hlast => ?_⟩
  · rcases List.mem_cons.1 hu with rfl | hu
    · exact ⟨h.queued u hmem, hgoal⟩
    · exact h.found u hu
  · exact List.pairwise_cons.2 ⟨fun u hu => h.found_before u hu t hmem, h.found_ordered⟩
  · rcases List.mem_cons.1 hu with rfl | hu
    · exact (hahead.1 v hv).before
    · exact h.found_before u hu v (hothers v hv)
  · rcases h.complete u hu hlast with hfound | ⟨v, hv, hpre⟩
    · exact Or.inl (List.mem_cons_of_mem t hfound)
    · rcases (mem_queue_iff hqueue).1 hv with rfl | hv
      · have hnodes := hu.nodes_eq_of_prefix hpre (hgoal.trans hlast.symm)
        rw [Trail.eq_of_nodes_eq (h.queued v hmem).follows hu.follows hnodes]
        exact Or.inl List.mem_cons_self
      · exact Or.inr ⟨v, hv, hpre⟩

theorem Invariant.extend (h : s.Invariant g keep start goal)
    (hqueue : s.queue.toList = t :: queue.toList) (hgoal : t.last ≠ goal) :
    Invariant g keep start goal { s with queue := queue.pushAll (t.extensions g keep) } := by
  have hmem : t ∈ s.queue.toList := (mem_queue_iff hqueue).2 (Or.inl rfl)
  have hothers : ∀ u ∈ queue.toList, u ∈ s.queue.toList := by
    intro u hu
    exact (mem_queue_iff hqueue).2 (Or.inr hu)
  have hahead := h.ahead
  rw [hqueue, List.pairwise_cons] at hahead
  refine ⟨fun u hu => ?_, h.found, ?_, h.found_ordered, fun u hu v hv => ?_,
    fun u hu hlast => ?_⟩
  · rw [Queue.toList_pushAll, List.mem_append] at hu
    rcases hu with hu | hu
    · exact h.queued u (hothers u hu)
    · exact (h.queued t hmem).of_mem_extensions hu
  · rw [Queue.toList_pushAll]
    exact List.pairwise_append.2 ⟨hahead.2, t.pairwise_ahead_extensions g keep,
      fun u hu v hv => (hahead.1 u hu).ahead_extension hv⟩
  · rw [Queue.toList_pushAll, List.mem_append] at hv
    rcases hv with hv | hv
    · exact h.found_before u hu v (hothers v hv)
    · exact (h.found_before u hu t hmem).trans (Trail.before_of_mem_extensions hv)
  · rcases h.complete u hu hlast with hfound | ⟨v, hv, hpre⟩
    · exact Or.inl hfound
    · simp only [Queue.toList_pushAll, List.mem_append]
      rcases (mem_queue_iff hqueue).1 hv with rfl | hv
      · have hne : v.nodes ≠ u.nodes := by
          intro e
          refine hgoal (Option.some.inj ?_)
          rw [← hlast, ← Trail.getLast?_nodes, ← Trail.getLast?_nodes, e]
        obtain ⟨w, hw, hpre'⟩ := hu.exists_extension hpre hne
        exact Or.inr ⟨w, Or.inr hw, hpre'⟩
      · exact Or.inr ⟨v, Or.inl hv, hpre⟩

end Step

/-- Every step keeps the invariant. -/
theorem Invariant.next? {s s' : Search n} (h : s.Invariant g keep start goal)
    (hnext : s.next? g keep goal = some s') : s'.Invariant g keep start goal := by
  obtain ⟨t, queue, -, hqueue, ⟨hgoal, rfl⟩ | ⟨hgoal, rfl⟩⟩ := next?_cases hnext
  · exact h.find hqueue hgoal _
  · exact h.extend hqueue hgoal

/-- The invariant holds when the search is over. -/
theorem Invariant.run {s : Search n} (h : s.Invariant g keep start goal) :
    (s.run g keep goal).Invariant g keep start goal := by
  fun_induction Search.run g keep goal s with
  | case1 s hnext => exact h
  | case2 s s' hnext ih => exact ih (h.next? hnext)

theorem next?_eq_none_iff {s : Search n} :
    s.next? g keep goal = none ↔ s.room = 0 ∨ s.queue.toList = [] := by
  rw [Search.next?, Option.map_eq_none_iff, take?]
  split
  · next h => simp [h]
  · next h => simp [h, Queue.pop?_eq_none_iff]

theorem next?_run (g : LinkGrid n) (keep : Fin n → Bool) (goal : Fin n) (s : Search n) :
    (s.run g keep goal).next? g keep goal = none := by
  fun_induction Search.run g keep goal s with
  | case1 s hnext => exact hnext
  | case2 s s' hnext ih => exact ih

/-! ## How many trails are found -/

theorem length_found_add_room_next? {s s' : Search n} (h : s.next? g keep goal = some s') :
    s'.found.length + s'.room = s.found.length + s.room := by
  obtain ⟨t, queue, hroom, -, ⟨-, rfl⟩ | ⟨-, rfl⟩⟩ := next?_cases h
  · dsimp only
    rw [List.length_cons]
    omega
  · rfl

theorem length_found_add_room_run (g : LinkGrid n) (keep : Fin n → Bool) (goal : Fin n)
    (s : Search n) :
    (s.run g keep goal).found.length + (s.run g keep goal).room = s.found.length + s.room := by
  fun_induction Search.run g keep goal s with
  | case1 s hnext => rfl
  | case2 s s' hnext ih => rw [ih, length_found_add_room_next? hnext]

theorem length_found_next?_le {s s' : Search n} (h : s.next? g keep goal = some s') :
    s'.found.length ≤ s.found.length + 1 := by
  obtain ⟨t, queue, -, -, ⟨-, rfl⟩ | ⟨-, rfl⟩⟩ := next?_cases h
  · exact Nat.le_refl _
  · exact Nat.le_succ _

theorem length_found_run_le (g : LinkGrid n) (keep : Fin n → Bool) (goal : Fin n)
    (s : Search n) :
    (s.run g keep goal).found.length ≤ s.found.length + s.weight := by
  fun_induction Search.run g keep goal s with
  | case1 s hnext => exact Nat.le_add_right _ _
  | case2 s s' hnext ih =>
    have hweight := weight_next?_lt hnext
    have hfound := length_found_next?_le hnext
    omega

end Search

end JoinPaths
