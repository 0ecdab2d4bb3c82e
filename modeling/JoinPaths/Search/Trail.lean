import JoinPaths.LinkGrid
import JoinPaths.Search.Count

/-!
# Trails

A trail is what a search has followed so far: a first node, then one node after the other, each
entered through a linkage. It is extended along the links of its last node, to nodes that it has not
visited yet. As every extension leaves fewer nodes unvisited, a trail has a finite `weight`, a bound
on the trails that can grow out of it, and its extensions together weigh less than itself
(`total_weight_extensions_lt`).
-/

namespace JoinPaths

/-- A sequence of nodes, each but the first entered through a linkage. -/
inductive Trail (n : Nat) where
  /-- The trail that stands at its first node. -/
  | start (node : Fin n)
  /-- A trail that goes on to one node more. -/
  | step (before : Trail n) (linkage : Linkage) (node : Fin n)
deriving DecidableEq

namespace Trail
variable {n : Nat}

/-- The node that was entered last. -/
def last : Trail n → Fin n
  | start i => i
  | step _ _ i => i

/-- The nodes in the order in which they were entered. -/
def nodes : Trail n → List (Fin n)
  | start i => [i]
  | step t _ i => t.nodes ++ [i]

def linkages : Trail n → List Linkage
  | start _ => []
  | step t l _ => t.linkages ++ [l]

def visits : Trail n → Fin n → Bool
  | start i, j => i == j
  | step t _ i, j => i == j || t.visits j

theorem visits_iff {t : Trail n} {i : Fin n} : t.visits i ↔ i ∈ t.nodes := by
  induction t with
  | start j => simp [visits, nodes, eq_comm (a := i)]
  | step t l j ih => simp [visits, nodes, ih, or_comm (b := i ∈ t.nodes), eq_comm (a := i)]

/-- The trails that go one link further, in ascending order of the node entered: to nodes that are
not yet visited and that `keep` admits. -/
def extensions (g : LinkGrid n) (keep : Fin n → Bool) (t : Trail n) : List (Trail n) :=
  ((g.neighbors t.last).filter fun e => !t.visits e.1 && keep e.1).map fun e => t.step e.2 e.1

theorem mem_extensions {g : LinkGrid n} {keep : Fin n → Bool} {t u : Trail n} :
    u ∈ t.extensions g keep ↔
      ∃ l i, g.get t.last i = some l ∧ t.visits i = false ∧ keep i = true ∧ u = t.step l i := by
  simp only [extensions, List.mem_map, List.mem_filter, Prod.exists, Bool.and_eq_true,
    Bool.not_eq_true']
  constructor
  · rintro ⟨i, l, ⟨hl, hv, hk⟩, rfl⟩
    exact ⟨l, i, LinkGrid.mem_neighbors.1 hl, hv, hk, rfl⟩
  · rintro ⟨l, i, hl, hv, hk, rfl⟩
    exact ⟨i, l, ⟨LinkGrid.mem_neighbors.2 hl, hv, hk⟩, rfl⟩

/-! ## How much can grow out of a trail -/

/-- The number of nodes that are not on the trail. -/
def unvisited (t : Trail n) : Nat :=
  (List.finRange n).countP fun i => !t.visits i

/-- The number of nodes of a tree of this height in which every inner node has `n` children. -/
def treeSize (n : Nat) : Nat → Nat
  | 0 => 1
  | height + 1 => 1 + n * treeSize n height

theorem treeSize_pos (n k : Nat) : 0 < treeSize n k := by
  cases k <;> simp only [treeSize] <;> omega

theorem treeSize_mono {n k m : Nat} (h : k ≤ m) : treeSize n k ≤ treeSize n m := by
  induction k generalizing m with
  | zero => exact treeSize_pos n m
  | succ k ih =>
    cases m with
    | zero => omega
    | succ m =>
      have := Nat.mul_le_mul_left n (ih (Nat.le_of_succ_le_succ h))
      simp only [treeSize]
      omega

/-- A bound on the number of trails that begin as this one does. -/
def weight (t : Trail n) : Nat :=
  treeSize n t.unvisited

theorem weight_pos (t : Trail n) : 0 < t.weight :=
  treeSize_pos n _

/-- Going on to a new node leaves fewer nodes unvisited. -/
theorem unvisited_step_lt {t : Trail n} {i : Fin n} (l : Linkage) (h : t.visits i = false) :
    (t.step l i).unvisited < t.unvisited := by
  refine countP_lt (b := i) ?_ (List.mem_finRange i) (by simp [h]) (by simp [visits])
  intro j _ hj
  simp_all [visits]

theorem length_extensions_le (g : LinkGrid n) (keep : Fin n → Bool) (t : Trail n) :
    (t.extensions g keep).length ≤ n := by
  rw [extensions, List.length_map]
  exact Nat.le_trans (List.length_filter_le _ _) (g.length_neighbors_le _)

/-- The extensions of a trail weigh less than the trail. -/
theorem total_weight_extensions_lt (g : LinkGrid n) (keep : Fin n → Bool) (t : Trail n) :
    total weight (t.extensions g keep) < t.weight := by
  cases hk : t.unvisited with
  | zero =>
    have : t.extensions g keep = [] := by
      refine List.eq_nil_iff_forall_not_mem.2 fun u hu => ?_
      obtain ⟨l, i, -, hv, -, -⟩ := mem_extensions.1 hu
      have := unvisited_step_lt l hv
      omega
    rw [this]
    exact t.weight_pos
  | succ k =>
    have hle : ∀ u ∈ t.extensions g keep, u.weight ≤ treeSize n k := by
      intro u hu
      obtain ⟨l, i, -, hv, -, rfl⟩ := mem_extensions.1 hu
      have := unvisited_step_lt l hv
      exact treeSize_mono (by omega)
    calc total weight (t.extensions g keep)
        ≤ (t.extensions g keep).length * treeSize n k := total_le hle
      _ ≤ n * treeSize n k := Nat.mul_le_mul_right _ (t.length_extensions_le g keep)
      _ < treeSize n (k + 1) := by simp only [treeSize]; omega
      _ = t.weight := by rw [weight, hk]

end Trail

end JoinPaths
