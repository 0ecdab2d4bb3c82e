import JoinPaths.Table

/-!
# Link grids

A `LinkGrid n` says, for every ordered pair of `n` nodes, through which linkage the first leads to
the second, if it does. The cells stand row by row in one flat vector: the cell of `i` and `j` is at
`i * n + j`, no two pairs share one (`offset_inj`), and so writing a cell changes no other pair
(`get_set`).
-/

namespace JoinPaths

/-- At most one linkage for every ordered pair of `n` nodes. -/
structure LinkGrid (n : Nat) where
  /-- The cells, row by row. -/
  cells : Vector (Option Linkage) (n * n)
deriving DecidableEq

namespace LinkGrid
variable {n : Nat}

/-! ## Cells -/

theorem offset_lt (i j : Fin n) : i.val * n + j.val < n * n := by
  calc i.val * n + j.val < i.val * n + n := by omega
    _ = (i.val + 1) * n := by rw [Nat.add_mul, Nat.one_mul]
    _ ≤ n * n := Nat.mul_le_mul_right n i.isLt

/-- The place of the cell of an ordered pair. -/
def offset (i j : Fin n) : Fin (n * n) :=
  ⟨i.val * n + j.val, offset_lt i j⟩

/-- A cell belongs to one pair only. -/
theorem offset_inj {i j i' j' : Fin n} : offset i j = offset i' j' ↔ i = i' ∧ j = j' := by
  constructor
  · intro h
    have h : i.val * n + j.val = i'.val * n + j'.val := congrArg Fin.val h
    have hj := congrArg (· % n) h
    have hi := congrArg (· / n) h
    have hn : 0 < n := i.pos
    simp only [Nat.mul_comm _ n, Nat.mul_add_mod, Nat.mod_eq_of_lt j.isLt,
      Nat.mod_eq_of_lt j'.isLt] at hj
    simp only [Nat.mul_comm _ n, Nat.mul_add_div hn, Nat.div_eq_of_lt j.isLt,
      Nat.div_eq_of_lt j'.isLt, Nat.add_zero] at hi
    exact ⟨Fin.ext hi, Fin.ext hj⟩
  · rintro ⟨rfl, rfl⟩
    rfl

def empty (n : Nat) : LinkGrid n :=
  ⟨Vector.replicate (n * n) none⟩

def get (g : LinkGrid n) (i j : Fin n) : Option Linkage :=
  g.cells[offset i j]

/-- Links one node to another, in place of what linked them before. -/
def set (g : LinkGrid n) (i j : Fin n) (l : Linkage) : LinkGrid n :=
  ⟨g.cells.set (offset i j).val (some l) (offset i j).isLt⟩

@[simp] theorem get_empty (i j : Fin n) : (empty n).get i j = none := by
  simp [get, empty]

/-- Writing a cell changes that cell only. -/
theorem get_set (g : LinkGrid n) (i j i' j' : Fin n) (l : Linkage) :
    (g.set i j l).get i' j' = if i = i' ∧ j = j' then some l else g.get i' j' := by
  simp only [get, set, Fin.getElem_fin, Vector.getElem_set]
  by_cases h : i = i' ∧ j = j'
  · simp [h.1, h.2]
  · have : (offset i j).val ≠ (offset i' j').val := fun e => h (offset_inj.1 (Fin.ext e))
    simp [h, this]

/-! ## Edges -/

/-- The nodes that a node leads to, in ascending order, each with its linkage. -/
def neighbors (g : LinkGrid n) (i : Fin n) : List (Fin n × Linkage) :=
  (List.finRange n).filterMap fun j => (g.get i j).map fun l => (j, l)

/-- The nodes that lead to a node, in ascending order. -/
def predecessors (g : LinkGrid n) (j : Fin n) : List (Fin n) :=
  (List.finRange n).filter fun i => (g.get i j).isSome

/-- The number of ordered pairs that are linked. -/
def edgeCount (g : LinkGrid n) : Nat :=
  g.cells.toList.countP Option.isSome

theorem mem_neighbors {g : LinkGrid n} {i j : Fin n} {l : Linkage} :
    (j, l) ∈ g.neighbors i ↔ g.get i j = some l := by
  simp only [neighbors, List.mem_filterMap, List.mem_finRange, true_and, Option.map_eq_some_iff,
    Prod.mk.injEq]
  constructor
  · rintro ⟨_, _, h, rfl, rfl⟩
    exact h
  · exact fun h => ⟨j, l, h, rfl, rfl⟩

theorem mem_predecessors {g : LinkGrid n} {i j : Fin n} :
    i ∈ g.predecessors j ↔ (g.get i j).isSome := by
  simp [predecessors]

theorem length_neighbors_le (g : LinkGrid n) (i : Fin n) : (g.neighbors i).length ≤ n := by
  calc (g.neighbors i).length ≤ (List.finRange n).length := List.length_filterMap_le _ _
    _ = n := List.length_finRange

end LinkGrid

end JoinPaths
