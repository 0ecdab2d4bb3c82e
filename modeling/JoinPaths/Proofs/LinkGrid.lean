import JoinPaths.JoinGraph.Basic
import Mathlib.Data.List.OfFn
import Mathlib.Data.List.FinRange

/-!
# Cells and edges of a grid

A foreign key writes the cell of its two nodes, and in an undirected graph first the cell of the
same nodes the other way round (`get_link`). Read from the first to the last, the cells are those of
the first node, then those of the second one, and so on (`toList_cells`). So a grid is known by its
cells (`ext_get`).
-/

namespace JoinPaths.LinkGrid

variable {n : Nat}

/-- What a foreign key from `i` to `j` leaves in each cell. On the diagonal the cell that is written
last is the one as written. -/
theorem get_link (g : LinkGrid n) (directed : Bool) (i j i' j' : Fin n) (l : Linkage) :
    (g.link directed i j l).get i' j' =
      if i = i' ∧ j = j' then some l
      else if directed = false ∧ j = i' ∧ i = j' then some l.reverse
      else g.get i' j' := by
  unfold link
  cases directed with
  | true => simp only [if_true, get_set, Bool.true_eq_false, false_and, if_false]
  | false => simp only [Bool.false_eq_true, if_false, get_set, true_and]

theorem toList_cells (g : LinkGrid n) :
    g.cells.toList =
      (List.finRange n).flatMap fun i => (List.finRange n).map fun j => g.get i j := by
  have h : g.cells.toList = List.ofFn fun k : Fin (n * n) => g.cells[k] := by
    rw [← Vector.toList_ofFn]
    exact congrArg Vector.toList Vector.ofFn_getElem.symm
  rw [h, List.ofFn_mul, List.ofFn_eq_map, List.flatMap_def]
  congr 1
  apply List.map_congr_left
  intro i _
  rw [List.ofFn_eq_map]
  rfl

theorem ext_get {g h : LinkGrid n} (hget : ∀ i j, g.get i j = h.get i j) : g = h := by
  have hcells : g.cells.toList = h.cells.toList := by
    rw [toList_cells, toList_cells]
    simp only [hget]
  obtain ⟨cells⟩ := g
  exact congrArg LinkGrid.mk (Vector.toList_inj.1 hcells)

end JoinPaths.LinkGrid
