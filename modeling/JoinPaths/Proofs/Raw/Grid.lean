import JoinPaths.JoinGraph.Basic
import Mathlib.Data.List.FinRange

/-!
# Grids with plain numbers

The nodes of a `LinkGrid` are bounded by their type, so that no cell can be missed. Here the same
grid is a plain list of cells and its nodes are plain numbers. Each access may fail: a node may not
be in the grid, or its cell not in the list. `none` stands for such a failure.

The plain form of a link grid never fails on the nodes of the grid, and gives what the grid gives
(`get?_raw`, `link?_raw`, `neighbors?_raw`, `predecessors?_raw`).
-/

namespace JoinPaths

namespace Raw

/-- A number of nodes and a list of cells, row by row. -/
structure Grid where
  side : Nat
  cells : List (Option Linkage)
deriving DecidableEq

/-- The members of a list that pass a test which may fail. -/
def filter? (test : Nat → Option Bool) : List Nat → Option (List Nat)
  | [] => some []
  | i :: rest => do
    let passes ← test i
    let others ← filter? test rest
    return if passes then i :: others else others

namespace Grid

def empty (side : Nat) : Grid :=
  ⟨side, List.replicate (side * side) none⟩

/-- The place of a cell, if both nodes are in the grid. -/
def offset? (g : Grid) (i j : Nat) : Option Nat :=
  if i < g.side ∧ j < g.side then some (i * g.side + j) else none

def get? (g : Grid) (i j : Nat) : Option (Option Linkage) := do
  let k ← g.offset? i j
  g.cells[k]?

def set? (g : Grid) (i j : Nat) (l : Linkage) : Option Grid := do
  let k ← g.offset? i j
  if k < g.cells.length then some { g with cells := g.cells.set k (some l) } else none

/-- Enters a foreign key between two nodes. -/
def link? (g : Grid) (directed : Bool) (i j : Nat) (l : Linkage) : Option Grid :=
  if directed then g.set? i j l
  else do
    let g ← g.set? j i l.reverse
    g.set? i j l

/-- The cells of a node, if the list of cells goes as far. -/
def row? (g : Grid) (i : Nat) : Option (List (Option Linkage)) :=
  if i * g.side + g.side ≤ g.cells.length then
    some ((g.cells.drop (i * g.side)).take g.side)
  else none

/-- The nodes that a node leads to, in ascending order, each with its linkage. -/
def neighbors? (g : Grid) (i : Nat) : Option (List (Nat × Linkage)) := do
  let cells ← g.row? i
  return cells.zipIdx.filterMap fun (cell, j) => cell.map fun l => (j, l)

/-- The nodes that lead to a node, in ascending order. -/
def predecessors? (g : Grid) (j : Nat) : Option (List Nat) :=
  filter? (fun i => (g.get? i j).map Option.isSome) (List.range g.side)

end Grid

/-- A test that does not fail on some nodes picks those that pass it. -/
theorem filter?_map_val {n : Nat} {test : Nat → Option Bool} {p : Fin n → Bool}
    (h : ∀ i : Fin n, test i.val = some (p i)) (nodes : List (Fin n)) :
    filter? test (nodes.map Fin.val) = some ((nodes.filter p).map Fin.val) := by
  induction nodes with
  | nil => rfl
  | cons i nodes ih =>
    rw [List.map_cons, filter?, h, ih, List.filter_cons]
    cases p i <;> rfl

end Raw

namespace LinkGrid

variable {n : Nat}

/-- A link grid with plain numbers. -/
def raw (g : LinkGrid n) : Raw.Grid :=
  ⟨n, g.cells.toList⟩

theorem raw_empty (n : Nat) : (empty n).raw = Raw.Grid.empty n := by
  unfold raw empty Raw.Grid.empty
  rw [Vector.toList_replicate]

theorem length_cells_raw (g : LinkGrid n) : g.raw.cells.length = n * n := by
  unfold raw
  rw [Vector.length_toList]

theorem offset?_raw (g : LinkGrid n) (i j : Fin n) :
    g.raw.offset? i j = some (offset i j).val :=
  if_pos ⟨i.isLt, j.isLt⟩

theorem getElem?_cells_raw (g : LinkGrid n) (i j : Fin n) :
    g.raw.cells[(offset i j).val]? = some (g.get i j) := by
  unfold raw get
  rw [List.getElem?_eq_getElem (by rw [Vector.length_toList]; exact (offset i j).isLt),
    Vector.getElem_toList]
  rfl

theorem get?_raw (g : LinkGrid n) (i j : Fin n) : g.raw.get? i j = some (g.get i j) := by
  unfold Raw.Grid.get?
  rw [offset?_raw]
  exact getElem?_cells_raw g i j

theorem set?_raw (g : LinkGrid n) (i j : Fin n) (l : Linkage) :
    g.raw.set? i j l = some (g.set i j l).raw := by
  have hlt : (offset i j).val < g.raw.cells.length := by
    rw [length_cells_raw]
    exact (offset i j).isLt
  unfold Raw.Grid.set?
  rw [offset?_raw]
  show (if (offset i j).val < g.raw.cells.length then _ else _) = _
  rw [if_pos hlt]
  unfold raw set
  rw [Vector.toList_set]

theorem link?_raw (g : LinkGrid n) (directed : Bool) (i j : Fin n) (l : Linkage) :
    g.raw.link? directed i j l = some (g.link directed i j l).raw := by
  unfold Raw.Grid.link? link
  cases directed with
  | true => exact set?_raw g i j l
  | false =>
    show (g.raw.set? j i l.reverse >>= _) = _
    rw [set?_raw]
    exact set?_raw _ i j l

theorem row?_raw (g : LinkGrid n) (i : Fin n) :
    g.raw.row? i = some ((List.finRange n).map fun j => g.get i j) := by
  have hend : i.val * n + n ≤ n * n := by
    calc i.val * n + n = (i.val + 1) * n := by rw [Nat.add_mul, Nat.one_mul]
      _ ≤ n * n := Nat.mul_le_mul_right n i.isLt
  unfold Raw.Grid.row?
  rw [length_cells_raw]
  show (if i.val * n + n ≤ n * n then _ else _) = _
  rw [if_pos hend]
  congr 1
  refine List.ext_getElem ?_ fun j hj hj' => ?_
  · rw [List.length_take, List.length_drop, length_cells_raw, List.length_map, List.length_finRange]
    show min n (n * n - i.val * n) = n
    omega
  · have hjn : j < n := by rwa [List.length_map, List.length_finRange] at hj'
    obtain ⟨_, hcell⟩ := List.getElem_of_getElem? (getElem?_cells_raw g i ⟨j, hjn⟩)
    rw [List.getElem_take, List.getElem_drop, List.getElem_map, List.getElem_finRange]
    exact hcell

theorem neighbors?_raw (g : LinkGrid n) (i : Fin n) :
    g.raw.neighbors? i = some ((g.neighbors i).map fun (j, l) => (j.val, l)) := by
  have hnumbered : ((List.finRange n).map fun j => g.get i j).zipIdx =
      (List.finRange n).map fun j => (g.get i j, j.val) := by
    refine List.ext_getElem (by simp) fun k hk hk' => ?_
    rw [List.getElem_zipIdx, List.getElem_map, List.getElem_map, List.getElem_finRange]
    simp
  unfold Raw.Grid.neighbors? neighbors
  rw [row?_raw]
  show some _ = _
  rw [hnumbered, List.filterMap_map, List.map_filterMap]
  congr 1
  refine List.filterMap_congr fun j _ => ?_
  show (g.get i j).map _ = ((g.get i j).map _).map _
  rw [Option.map_map]
  rfl

theorem predecessors?_raw (g : LinkGrid n) (j : Fin n) :
    g.raw.predecessors? j = some ((g.predecessors j).map Fin.val) := by
  unfold Raw.Grid.predecessors? predecessors
  show Raw.filter? _ (List.range n) = _
  rw [← List.map_coe_finRange_eq_range]
  exact Raw.filter?_map_val (fun i => by rw [get?_raw]; rfl) (List.finRange n)

end LinkGrid

end JoinPaths
