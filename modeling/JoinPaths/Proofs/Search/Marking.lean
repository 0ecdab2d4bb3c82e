import JoinPaths.Proofs.Raw.Search
import JoinPaths.Proofs.Search.Reach
import Mathlib.Data.List.Chain

/-!
# The marking pass

The pass that marks the nodes that reach a goal takes the waiting nodes one after the other, finds
through the flat list of cells what leads to each of them, and lets wait what had no mark yet.

1. A node that waits has a mark, and so has a node that was taken. Only nodes without a mark begin
   to wait. So no node waits twice (`SpreadsTo.nodup`).
2. What the pass leaves is a list with one mark for every node, and a node is marked exactly if a
   chain of links leads from it to the goal (`marks_iff_exists_chain`). The chain may be of one
   node, so that the goal is marked itself.
-/

namespace JoinPaths.LinkGrid

variable {n : Nat} {g : LinkGrid n} {goal : Fin n}

/-! ## The turns of the pass -/

/-- Whether the pass comes to some marks and some waiting nodes, and which nodes it takes on the
way. As the line is first in, first out, the nodes that have waited so far are those that were taken
and those that wait. -/
inductive SpreadsTo (g : LinkGrid n) (goal : Fin n) :
    List (Fin n) → Marks n → List (Fin n) → Prop
  | begin : SpreadsTo g goal [] (Marks.add (Vector.replicate n false) [goal]) [goal]
  | turn {taken : List (Fin n)} {marks : Marks n} {i : Fin n} {others : List (Fin n)}
      (h : SpreadsTo g goal taken marks (i :: others)) :
      SpreadsTo g goal (taken ++ [i]) (marks.add (g.fresh marks i)) (others ++ g.fresh marks i)

namespace SpreadsTo

variable {taken waiting : List (Fin n)} {marks : Marks n}

theorem marked (h : g.SpreadsTo goal taken marks waiting) {i : Fin n} (hi : i ∈ taken ++ waiting) :
    marks.get i = true := by
  induction h with
  | begin =>
    rw [List.nil_append] at hi
    exact (Marks.get_add _ _ i).2 (Or.inr hi)
  | turn h ih =>
    rw [← List.append_cons, ← List.cons_append, ← List.append_assoc, List.mem_append] at hi
    exact (Marks.get_add _ _ i).2 (hi.imp_left ih)

theorem nodup (h : g.SpreadsTo goal taken marks waiting) : (taken ++ waiting).Nodup := by
  induction h with
  | begin => exact List.nodup_singleton goal
  | turn h ih =>
    rw [← List.append_cons, ← List.cons_append, ← List.append_assoc]
    refine ih.append ((g.nodup_predecessors _).filter _) fun i hi hfresh => ?_
    have hmark := h.marked hi
    rw [unmarked_of_mem_fresh hfresh] at hmark
    exact Bool.false_ne_true hmark

/-- Wherever the pass is, it goes on to its end. -/
theorem exists_spread (h : g.SpreadsTo goal taken marks waiting) :
    ∃ all, g.SpreadsTo goal all (g.spread marks waiting) [] := by
  fun_induction spread g marks waiting generalizing taken with
  | case1 marks => exact ⟨taken, h⟩
  | case2 marks i others ih => exact ih h.turn

end SpreadsTo

/-! ## The marks at the end -/

theorem reaches_iff_exists_chain {i j : Fin n} :
    g.Reaches i j ↔ ∃ chain : List (Fin n),
      chain.head? = some i ∧ chain.getLast? = some j ∧ chain.IsChain g.Linked := by
  constructor
  · intro h
    obtain ⟨rest, hchain, hlast⟩ := List.exists_isChain_cons_of_relationReflTransGen h
    refine ⟨i :: rest, rfl, ?_, hchain⟩
    rw [List.getLast?_eq_some_getLast (List.cons_ne_nil i rest), hlast]
  · rintro ⟨chain, hhead, hlast, hchain⟩
    cases chain with
    | nil => cases hhead
    | cons k rest =>
      obtain rfl : k = i := Option.some.inj hhead
      refine List.relationReflTransGen_of_exists_isChain_cons rest hchain ?_
      rw [List.getLast?_eq_some_getLast (List.cons_ne_nil k rest)] at hlast
      exact Option.some.inj hlast

/-- The pass ends with one mark for every node, and marks a node exactly if a chain of links, of any
length, leads from it to the goal. -/
theorem marks_iff_exists_chain (g : LinkGrid n) (goal : Fin n) :
    ∃ marks : List Bool, g.raw.reaching? goal.val = some marks ∧
      marks = (g.reaching goal).toList ∧ marks.length = n ∧
      ∀ i : Fin n, marks[i.val]? = some true ↔
        ∃ chain : List (Fin n), chain.head? = some i ∧ chain.getLast? = some goal ∧
          chain.IsChain g.Linked := by
  refine ⟨(g.reaching goal).toList, g.reaching?_raw goal, rfl, Vector.length_toList, fun i => ?_⟩
  rw [getElem?_toList_marks, Option.some.injEq, get_reaching, reaches_iff_exists_chain]

end JoinPaths.LinkGrid
