import JoinPaths.Search.Reach
import Mathlib.Logic.Relation

/-!
# The marks are reachability

`LinkGrid.Reaches` is a chain of any number of links. The marks of `reaching` are the nodes from
which such a chain leads to the goal (`get_reaching`).

1. Every marked node reaches the goal, since it was the goal or leads to a marked node.
2. What leads to a marked node is marked as well, unless the marked node still waits for its turn.
3. At the end no node waits, so that marks pass from the goal backwards along every chain.
-/

namespace JoinPaths.LinkGrid

variable {n : Nat} {g : LinkGrid n}

/-- Whether a node leads to another one directly. -/
def Linked (g : LinkGrid n) (i j : Fin n) : Prop :=
  (g.get i j).isSome

/-- Whether a chain of links, of any length, leads from one node to another. -/
def Reaches (g : LinkGrid n) : Fin n → Fin n → Prop :=
  Relation.ReflTransGen g.Linked

theorem linked_of_get {i j : Fin n} {l : Linkage} (h : g.get i j = some l) : g.Linked i j := by
  unfold Linked
  rw [h]
  rfl

theorem mem_fresh {marks : Marks n} {i j : Fin n} :
    i ∈ g.fresh marks j ↔ g.Linked i j ∧ marks.get i = false := by
  unfold fresh Linked
  rw [List.mem_filter, mem_predecessors, Bool.not_eq_true']

/-- What holds of the marks and of the waiting nodes at every turn. -/
structure Spreading (g : LinkGrid n) (goal : Fin n) (marks : Marks n) (waiting : List (Fin n)) :
    Prop where
  goal_marked : marks.get goal = true
  sound : ∀ i : Fin n, marks.get i = true → g.Reaches i goal
  waiting_marked : ∀ i ∈ waiting, marks.get i = true
  /-- What leads to a marked node is marked, or the marked node waits. -/
  closed : ∀ i j : Fin n, g.Linked i j → marks.get j = true → marks.get i = true ∨ j ∈ waiting

namespace Spreading
variable {goal : Fin n} {marks : Marks n}

theorem initial (g : LinkGrid n) (goal : Fin n) :
    g.Spreading goal (Marks.add (Vector.replicate n false) [goal]) [goal] := by
  have hmarks : ∀ i : Fin n,
      (Marks.add (Vector.replicate n false) [goal]).get i = true ↔ i = goal := by
    intro i
    have hnone : (Vector.replicate n false).get i = false := by
      show (Vector.replicate n false)[i.val] = false
      rw [Vector.getElem_replicate]
    rw [Marks.get_add, hnone]
    simp
  refine ⟨(hmarks goal).2 rfl, fun i hi => ?_, fun i hi => ?_, fun i j _ hj => Or.inr ?_⟩
  · rw [(hmarks i).1 hi]
    exact .refl
  · exact (hmarks i).2 (List.mem_singleton.1 hi)
  · exact List.mem_singleton.2 ((hmarks j).1 hj)

/-- One turn keeps what holds. -/
theorem step {i : Fin n} {others : List (Fin n)} (h : g.Spreading goal marks (i :: others)) :
    g.Spreading goal (marks.add (g.fresh marks i)) (others ++ g.fresh marks i) := by
  have hmarks : ∀ k : Fin n,
      (marks.add (g.fresh marks i)).get k = true ↔ marks.get k = true ∨ k ∈ g.fresh marks i := by
    intro k
    exact Marks.get_add marks _ k
  have hi : marks.get i = true := h.waiting_marked i List.mem_cons_self
  refine ⟨(hmarks goal).2 (Or.inl h.goal_marked), fun k hk => ?_, fun k hk => ?_,
    fun k j hkj hj => ?_⟩
  · rcases (hmarks k).1 hk with hk | hk
    · exact h.sound k hk
    · exact .head (mem_fresh.1 hk).1 (h.sound i hi)
  · rw [hmarks]
    rcases List.mem_append.1 hk with hk | hk
    · exact Or.inl (h.waiting_marked k (List.mem_cons_of_mem i hk))
    · exact Or.inr hk
  · rw [hmarks, List.mem_append]
    rcases (hmarks j).1 hj with hj | hj
    · rcases h.closed k j hkj hj with hk | hwait
      · exact Or.inl (Or.inl hk)
      · rcases List.mem_cons.1 hwait with rfl | hwait
        · -- the node whose turn it is: what leads to it is marked now
          cases hk : marks.get k with
          | true => exact Or.inl (Or.inl rfl)
          | false => exact Or.inl (Or.inr (mem_fresh.2 ⟨hkj, hk⟩))
        · exact Or.inr (Or.inl hwait)
    · exact Or.inr (Or.inr hj)

theorem spread {waiting : List (Fin n)} (h : g.Spreading goal marks waiting) :
    g.Spreading goal (g.spread marks waiting) [] := by
  fun_induction LinkGrid.spread g marks waiting with
  | case1 marks => exact h
  | case2 marks i others ih => exact ih h.step

theorem marked_iff (h : g.Spreading goal marks []) (i : Fin n) :
    marks.get i = true ↔ g.Reaches i goal := by
  constructor
  · exact h.sound i
  · intro hi
    induction hi using Relation.ReflTransGen.head_induction_on with
    | refl => exact h.goal_marked
    | head hij _ ih =>
      rcases h.closed _ _ hij ih with hk | hwait
      · exact hk
      · exact absurd hwait List.not_mem_nil

end Spreading

/-- A node is marked exactly if a chain of links leads from it to the goal. -/
theorem get_reaching (g : LinkGrid n) (goal i : Fin n) :
    (g.reaching goal).get i = true ↔ g.Reaches i goal :=
  (Spreading.initial g goal).spread.marked_iff i

end JoinPaths.LinkGrid
