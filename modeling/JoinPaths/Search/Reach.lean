import JoinPaths.LinkGrid
import JoinPaths.Search.Count

/-!
# Nodes that reach a goal

The goal is marked first. Then every marked node is taken once, and its predecessors that are not
yet marked are marked and wait for their turn. A node waits only when it has just been marked, so
each waits at most once and the pass ends: either a node becomes marked or the line gets shorter.
-/

namespace JoinPaths.LinkGrid

variable {n : Nat}

/-- One mark for every node. -/
abbrev Marks (n : Nat) := Vector Bool n

/-- Marks some nodes more. -/
def Marks.add (marks : Marks n) (nodes : List (Fin n)) : Marks n :=
  nodes.foldl (fun (m : Marks n) (i : Fin n) => m.set i true) marks

/-- The number of nodes without a mark. -/
def Marks.unmarked (marks : Marks n) : Nat :=
  (List.finRange n).countP fun i => !marks.get i

theorem Marks.get_set (marks : Marks n) (i j : Fin n) :
    Vector.get (Vector.set marks i true) j = if i = j then true else marks.get j := by
  show (Vector.set marks i true)[j.val] = if i = j then true else marks[j.val]
  rw [Vector.getElem_set]
  simp only [Fin.val_inj]

/-- A node is marked afterwards if it was marked before or is among the new ones. -/
theorem Marks.get_add (marks : Marks n) (nodes : List (Fin n)) (i : Fin n) :
    (marks.add nodes).get i = true ↔ marks.get i = true ∨ i ∈ nodes := by
  induction nodes generalizing marks with
  | nil => simp [add]
  | cons j nodes ih =>
    have := ih (marks.set j true)
    simp only [add, List.foldl_cons] at this ⊢
    rw [this, get_set]
    by_cases h : j = i
    · simp [h]
    · simp [h, Ne.symm h]

/-- Marking nodes that had no mark leaves fewer without. -/
theorem Marks.unmarked_add_lt {marks : Marks n} {nodes : List (Fin n)} {i : Fin n}
    (hi : i ∈ nodes) (h : marks.get i = false) : (marks.add nodes).unmarked < marks.unmarked := by
  refine countP_lt (b := i) ?_ (List.mem_finRange i) (by simpa using h) ?_
  · intro j _ hj
    rw [Bool.not_eq_true', ← Bool.not_eq_true, get_add] at hj
    rw [Bool.not_eq_true', ← Bool.not_eq_true]
    exact fun hmark => hj (Or.inl hmark)
  · rw [(get_add marks nodes i).2 (Or.inr hi)]
    rfl

/-- The predecessors of a node that are still without a mark. -/
def fresh (g : LinkGrid n) (marks : Marks n) (i : Fin n) : List (Fin n) :=
  (g.predecessors i).filter fun j => !marks.get j

theorem unmarked_of_mem_fresh {g : LinkGrid n} {marks : Marks n} {i j : Fin n}
    (h : j ∈ g.fresh marks i) : marks.get j = false := by
  simpa [fresh] using (List.mem_filter.1 h).2

/-- Marks what leads to the waiting nodes, until no node waits. -/
def spread (g : LinkGrid n) (marks : Marks n) (waiting : List (Fin n)) : Marks n :=
  match waiting with
  | [] => marks
  | i :: others =>
    spread g (marks.add (g.fresh marks i)) (others ++ g.fresh marks i)
termination_by (marks.unmarked, waiting.length)
decreasing_by
  cases h : g.fresh marks i with
  | nil =>
    simp only [Marks.add, List.foldl_nil, List.append_nil, List.length_cons]
    exact Prod.Lex.right _ (Nat.lt_succ_self _)
  | cons j nodes =>
    refine Prod.Lex.left _ _ (Marks.unmarked_add_lt List.mem_cons_self ?_)
    exact unmarked_of_mem_fresh (h ▸ List.mem_cons_self)

/-- Marks the nodes from which a chain of links leads to the goal. -/
def reaching (g : LinkGrid n) (goal : Fin n) : Marks n :=
  g.spread (Marks.add (Vector.replicate n false) [goal]) [goal]

end JoinPaths.LinkGrid
