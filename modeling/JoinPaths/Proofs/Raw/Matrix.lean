import JoinPaths.Proofs.LinkGrid
import JoinPaths.Proofs.Raw.Grid
import JoinPaths.Proofs.Search.Trail
import Mathlib.Algebra.BigOperators.Fin
import Mathlib.Algebra.BigOperators.Group.Finset.Sigma

/-!
# A flat grid as a matrix

A grid starts empty and is written cell by cell. Its cells stand in one flat list, and its readers
take that list apart in different ways: a single cell, the stretch of cells of one node, every
`n`-th cell for the nodes that lead to one node, or all cells in turn. Whatever was written, all of
them see the same matrix, in which every cell holds what was written to it last
(`readings_of_writes`).

1. A write changes one cell of the matrix, so a run of writes leaves the last one of each cell
   (`get_ofWrites`).
2. The plain list of cells is written without failing, and stays of one length
   (`ofWrites?_raw`).
3. The edges counted over all cells are those counted node by node, either where they begin or
   where they end (`edgeCount_eq_sum_neighbors`, `edgeCount_eq_sum_predecessors`).
-/

namespace JoinPaths

namespace Raw.Grid

/-- The grid that some writes leave behind, one after the other, if none of them fails. -/
def ofWrites? (side : Nat) (writes : List (Nat × Nat × Linkage)) : Option Grid :=
  writes.foldlM (fun g (i, j, l) => g.set? i j l) (empty side)

/-- The number of cells with something in them. -/
def edgeCount (g : Grid) : Nat :=
  g.cells.countP Option.isSome

end Raw.Grid

namespace LinkGrid

variable {n : Nat}

/-! ## Writing cells -/

/-- A linkage and the two nodes whose cell it is written to. -/
structure Write (n : Nat) where
  source : Fin n
  target : Fin n
  linkage : Linkage

/-- Whether a write is to the cell of two nodes. -/
def Write.isTo (w : Write n) (i j : Fin n) : Bool :=
  w.source = i ∧ w.target = j

/-- A write with plain numbers. -/
def Write.raw (w : Write n) : Nat × Nat × Linkage :=
  (w.source.val, w.target.val, w.linkage)

def write (g : LinkGrid n) (w : Write n) : LinkGrid n :=
  g.set w.source w.target w.linkage

/-- The grid that some writes leave behind, one after the other. -/
def ofWrites (writes : List (Write n)) : LinkGrid n :=
  writes.foldl write (empty n)

/-- The linkage that was written last to the cell of two nodes. -/
def lastWritten? (writes : List (Write n)) (i j : Fin n) : Option Linkage :=
  (writes.filter fun w => w.isTo i j).getLast?.map Write.linkage

theorem get_write (g : LinkGrid n) (w : Write n) (i j : Fin n) :
    (g.write w).get i j = if w.isTo i j then some w.linkage else g.get i j := by
  unfold write Write.isTo
  rw [get_set]
  simp only [decide_eq_true_eq]

theorem lastWritten?_concat (writes : List (Write n)) (w : Write n) (i j : Fin n) :
    lastWritten? (writes ++ [w]) i j =
      if w.isTo i j then some w.linkage else lastWritten? writes i j := by
  unfold lastWritten?
  rw [List.filter_append]
  cases h : w.isTo i j with
  | true =>
    rw [List.filter_singleton, h, cond_true, List.getLast?_concat, if_pos rfl]
    rfl
  | false => rw [List.filter_singleton, h, cond_false, List.append_nil, if_neg Bool.false_ne_true]

/-- After some writes every cell holds what was written to it last. -/
theorem get_ofWrites (writes : List (Write n)) (i j : Fin n) :
    (ofWrites writes).get i j = lastWritten? writes i j := by
  induction writes using List.reverseRecOn with
  | nil => exact get_empty i j
  | append_singleton writes w ih =>
    have hwrite : ofWrites (writes ++ [w]) = (ofWrites writes).write w := List.foldl_concat ..
    rw [hwrite, get_write, lastWritten?_concat, ih]

example : (ofWrites [⟨0, 1, ⟨"first", "id"⟩⟩, ⟨0, 1, ⟨"second", "id"⟩⟩] : LinkGrid 2).get 0 1 =
    some ⟨"second", "id"⟩ := by decide

theorem ofWrites?_raw (writes : List (Write n)) :
    Raw.Grid.ofWrites? n (writes.map Write.raw) = some (ofWrites writes).raw := by
  unfold Raw.Grid.ofWrites? ofWrites
  rw [← raw_empty]
  generalize empty n = g
  induction writes generalizing g with
  | nil => rfl
  | cons w writes ih =>
    rw [List.map_cons, List.foldlM_cons, List.foldl_cons]
    show (g.raw.set? w.source.val w.target.val w.linkage >>= _) = _
    rw [set?_raw]
    exact ih (g.write w)

/-! ## Counting edges -/

theorem countP_finRange (p : Fin n → Bool) :
    (List.finRange n).countP p = ∑ i, if p i then 1 else 0 := by
  rw [Fin.sum_univ_def]
  induction List.finRange n with
  | nil => rfl
  | cons i rest ih => rw [List.countP_cons, List.map_cons, List.sum_cons, ih, Nat.add_comm]

theorem length_neighbors (g : LinkGrid n) (i : Fin n) :
    (g.neighbors i).length = ∑ j, if (g.get i j).isSome then 1 else 0 := by
  unfold neighbors
  rw [List.length_filterMap_eq_countP, ← countP_finRange]
  simp only [Option.isSome_map]

theorem length_predecessors (g : LinkGrid n) (j : Fin n) :
    (g.predecessors j).length = ∑ i, if (g.get i j).isSome then 1 else 0 := by
  unfold predecessors
  rw [← List.countP_eq_length_filter, countP_finRange]

theorem edgeCount_eq_sum_neighbors (g : LinkGrid n) :
    g.edgeCount = ∑ i, (g.neighbors i).length := by
  unfold edgeCount
  rw [toList_cells, List.countP_flatMap, Fin.sum_univ_def]
  congr 1
  apply List.map_congr_left
  intro i _
  rw [length_neighbors, ← countP_finRange, Function.comp_apply, List.countP_map]
  rfl

/-- Every edge is counted with the node that it enters. -/
theorem edgeCount_eq_sum_predecessors (g : LinkGrid n) :
    g.edgeCount = ∑ j, (g.predecessors j).length := by
  calc g.edgeCount = ∑ i, ∑ j, (if (g.get i j).isSome then 1 else 0) := by
        rw [edgeCount_eq_sum_neighbors]
        simp only [length_neighbors]
    _ = ∑ j, ∑ i, (if (g.get i j).isSome then 1 else 0) := Finset.sum_comm
    _ = ∑ j, (g.predecessors j).length := by simp only [length_predecessors]

/-! ## Reading a written grid -/

theorem pairwise_predecessors (g : LinkGrid n) (j : Fin n) :
    (g.predecessors j).Pairwise (· < ·) :=
  (List.pairwise_lt_finRange n).filter _

/-- After any writes the flat list of cells has its length, every cell holds what was written to it
last, and a further write leaves all others as they are. The neighbours of a node are the nodes to
which it is linked, its predecessors those that are linked to it, both in ascending order, and the
edges are as many as there are neighbours of all nodes, or predecessors of all nodes. -/
theorem readings_of_writes (writes : List (Write n)) :
    ∃ g : LinkGrid n, ofWrites writes = g ∧
      (Raw.Grid.ofWrites? n (writes.map Write.raw) = some g.raw ∧ g.raw.cells.length = n * n) ∧
      (∀ i j, g.get i j = lastWritten? writes i j ∧
        g.raw.get? i.val j.val = some (g.get i j)) ∧
      (∀ w i j, w.isTo i j = false → (g.write w).get i j = g.get i j) ∧
      (∀ i, (g.neighbors i).Pairwise (fun e f => e.1 < f.1) ∧
        (∀ j l, (j, l) ∈ g.neighbors i ↔ g.get i j = some l) ∧
        g.raw.neighbors? i.val = some ((g.neighbors i).map fun (j, l) => (j.val, l))) ∧
      (∀ j, (g.predecessors j).Pairwise (· < ·) ∧
        (∀ i, i ∈ g.predecessors j ↔ ∃ l, g.get i j = some l) ∧
        g.raw.predecessors? j.val = some ((g.predecessors j).map Fin.val)) ∧
      g.raw.edgeCount = g.edgeCount ∧
      g.edgeCount = ∑ i, (g.neighbors i).length ∧
      g.edgeCount = ∑ j, (g.predecessors j).length := by
  refine ⟨ofWrites writes, rfl, ⟨ofWrites?_raw writes, length_cells_raw _⟩,
    fun i j => ⟨get_ofWrites writes i j, get?_raw _ i j⟩, fun w i j hw => ?_,
    fun i => ⟨pairwise_neighbors _ i, fun j l => mem_neighbors, neighbors?_raw _ i⟩,
    fun j => ⟨pairwise_predecessors _ j, fun i => ?_, predecessors?_raw _ j⟩, rfl,
    edgeCount_eq_sum_neighbors _, edgeCount_eq_sum_predecessors _⟩
  · rw [get_write, hw, if_neg Bool.false_ne_true]
  · rw [mem_predecessors, Option.isSome_iff_exists]

end LinkGrid

end JoinPaths
