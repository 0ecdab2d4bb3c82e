import JoinPaths.Search.Trail
import JoinPaths.Proofs.Search.Reach
import JoinPaths.Proofs.Search.Shortlex
import Mathlib.Data.List.Chain
import Mathlib.Data.List.Nodup

/-!
# Trails through a grid

A trail that follows the links of a grid is known by its nodes (`Trail.eq_of_nodes_eq`), and every
chain of linked nodes is the chain of such a trail (`Trail.exists_follows`). The search deals with
simple trails, on which no node occurs twice. One that is not yet where another one goes has an
extension on the way there (`Trail.IsSimple.exists_extension`).

Trails are compared by length and then by their nodes (`Trail.Before`). What a search has in its
queue at one time is ordered more tightly (`Trail.Ahead`): of two trails the later one is either of
the same length, or one node longer and grown out of a trail before the earlier one.
-/

namespace JoinPaths

variable {n : Nat} {g : LinkGrid n}

theorem LinkGrid.pairwise_neighbors (g : LinkGrid n) (i : Fin n) :
    (g.neighbors i).Pairwise fun a b => a.1 < b.1 := by
  refine List.pairwise_filterMap.2 ((List.pairwise_lt_finRange n).imp ?_)
  intro j k hjk a ha b hb
  obtain ⟨l, -, rfl⟩ := Option.map_eq_some_iff.1 ha
  obtain ⟨m, -, rfl⟩ := Option.map_eq_some_iff.1 hb
  exact hjk

namespace Trail

/-! ## Nodes -/

/-- The node where a trail begins. -/
def first : Trail n → Fin n
  | start i => i
  | step t _ _ => t.first

/-- Whether every node but the first is entered through the link from the node before it. -/
def Follows (g : LinkGrid n) : Trail n → Prop
  | start _ => True
  | step t l i => t.Follows g ∧ g.get t.last i = some l

theorem nodes_ne_nil (t : Trail n) : t.nodes ≠ [] := by
  cases t <;> simp [nodes]

theorem length_nodes_step (t : Trail n) (l : Linkage) (i : Fin n) :
    (t.step l i).nodes.length = t.nodes.length + 1 := by
  rw [nodes, List.length_append, List.length_singleton]

theorem nodes_step_ne_nodes_start (t : Trail n) (l : Linkage) (i j : Fin n) :
    (t.step l i).nodes ≠ (start j).nodes := by
  intro h
  have hlen : (t.step l i).nodes.length = 1 := congrArg List.length h
  have hpos := List.length_pos_iff.2 t.nodes_ne_nil
  rw [length_nodes_step] at hlen
  omega

@[simp] theorem head?_nodes (t : Trail n) : t.nodes.head? = some t.first := by
  induction t with
  | start i => rfl
  | step t l i ih => rw [nodes, List.head?_append, ih]; rfl

@[simp] theorem getLast?_nodes (t : Trail n) : t.nodes.getLast? = some t.last := by
  cases t with
  | start i => rfl
  | step t l i => rw [nodes, List.getLast?_append]; rfl

theorem last_mem_nodes (t : Trail n) : t.last ∈ t.nodes :=
  List.mem_of_getLast? t.getLast?_nodes

theorem first_mem_nodes (t : Trail n) : t.first ∈ t.nodes :=
  List.mem_of_head? t.head?_nodes

theorem Follows.isChain {t : Trail n} (h : t.Follows g) : t.nodes.IsChain g.Linked := by
  induction t with
  | start i => exact .singleton i
  | step t l i ih =>
    refine (ih h.1).append (.singleton i) fun a ha b hb => ?_
    rw [getLast?_nodes, Option.mem_some_iff] at ha
    rw [List.head?_cons, Option.mem_some_iff] at hb
    rw [← ha, ← hb]
    exact LinkGrid.linked_of_get h.2

theorem exists_follows {nodes : List (Fin n)} (hne : nodes ≠ [])
    (h : nodes.IsChain g.Linked) : ∃ t : Trail n, t.Follows g ∧ t.nodes = nodes := by
  induction nodes using List.reverseRecOn with
  | nil => exact absurd rfl hne
  | append_singleton nodes i ih =>
    by_cases hnil : nodes = []
    · exact ⟨.start i, trivial, by rw [hnil]; rfl⟩
    · obtain ⟨hchain, -, hlink⟩ := List.isChain_append.1 h
      obtain ⟨t, ht, rfl⟩ := ih hnil hchain
      obtain ⟨l, hl⟩ := Option.isSome_iff_exists.1
        (hlink t.last t.getLast?_nodes i (by rw [List.head?_cons]; rfl))
      exact ⟨t.step l i, ⟨ht, hl⟩, rfl⟩

theorem eq_of_nodes_eq {t u : Trail n} (ht : t.Follows g) (hu : u.Follows g)
    (h : t.nodes = u.nodes) : t = u := by
  induction t generalizing u with
  | start i =>
    cases u with
    | start j =>
      rw [nodes, nodes, List.singleton_inj] at h
      rw [h]
    | step u m j => exact absurd h.symm (u.nodes_step_ne_nodes_start m j i)
  | step t l i ih =>
    cases u with
    | start j => exact absurd h (t.nodes_step_ne_nodes_start l i j)
    | step u m j =>
      obtain ⟨hnodes, hij⟩ := List.append_inj' h rfl
      obtain rfl := ih ht.1 hu.1 hnodes
      obtain rfl := List.singleton_inj.1 hij
      have hlm := ht.2.symm.trans hu.2
      rw [Option.some.inj hlm]

/-- The last node of a trail can be reached from all of its nodes. -/
theorem Follows.reaches_last {t : Trail n} (h : t.Follows g) {i : Fin n} (hi : i ∈ t.nodes) :
    g.Reaches i t.last := by
  induction t with
  | start j =>
    rw [List.mem_singleton.1 hi]
    exact .refl
  | step t l j ih =>
    rcases List.mem_append.1 hi with hi | hi
    · exact .tail (ih h.1 hi) (LinkGrid.linked_of_get h.2)
    · rw [List.mem_singleton.1 hi]
      exact .refl

/-! ## Simple trails -/

/-- A trail from a node along links, on which no node occurs twice and all are admitted. -/
structure IsSimple (g : LinkGrid n) (keep : Fin n → Bool) (start : Fin n) (t : Trail n) :
    Prop where
  first_eq : t.first = start
  follows : t.Follows g
  nodup : t.nodes.Nodup
  kept : ∀ i ∈ t.nodes, keep i = true

variable {keep : Fin n → Bool} {start : Fin n} {t u : Trail n}

theorem isSimple_start (h : keep start = true) : IsSimple g keep start (.start start) where
  first_eq := rfl
  follows := trivial
  nodup := List.nodup_singleton start
  kept := fun i hi => by rwa [List.mem_singleton.1 hi]

theorem visits_eq_false_iff {i : Fin n} : t.visits i = false ↔ i ∉ t.nodes := by
  rw [← Bool.not_eq_true, visits_iff]

theorem IsSimple.of_mem_extensions (h : t.IsSimple g keep start) (hu : u ∈ t.extensions g keep) :
    u.IsSimple g keep start := by
  obtain ⟨l, i, hl, hv, hk, rfl⟩ := mem_extensions.1 hu
  refine ⟨h.first_eq, ⟨h.follows, hl⟩, ?_, fun j hj => ?_⟩
  · refine h.nodup.append (List.nodup_singleton i) ?_
    rw [List.disjoint_singleton]
    exact visits_eq_false_iff.1 hv
  · rcases List.mem_append.1 hj with hj | hj
    · exact h.kept j hj
    · rwa [List.mem_singleton.1 hj]

/-- A trail from which a simple one goes on has an extension from which it goes on as well. -/
theorem IsSimple.exists_extension (hu : u.IsSimple g keep start)
    (hpre : t.nodes <+: u.nodes) (hne : t.nodes ≠ u.nodes) :
    ∃ v ∈ t.extensions g keep, v.nodes <+: u.nodes := by
  obtain ⟨rest, hrest⟩ := hpre
  cases rest with
  | nil => exact absurd (by rw [← hrest, List.append_nil]) hne
  | cons i rest =>
    have hchain := hu.follows.isChain
    have hnodup := hu.nodup
    rw [← hrest] at hchain hnodup
    obtain ⟨l, hl⟩ : ∃ l, g.get t.last i = some l := Option.isSome_iff_exists.1
      ((List.isChain_append.1 hchain).2.2 t.last t.getLast?_nodes i (by rw [List.head?_cons]; rfl))
    refine ⟨t.step l i, mem_extensions.2 ⟨l, i, hl, ?_, ?_, rfl⟩, rest, ?_⟩
    · rw [visits_eq_false_iff]
      intro hi
      exact (List.nodup_append.1 hnodup).2.2 i hi i List.mem_cons_self rfl
    · refine hu.kept i ?_
      rw [← hrest]
      exact List.mem_append_right _ List.mem_cons_self
    · rw [nodes, List.append_assoc, ← hrest]
      rfl

theorem IsSimple.nodes_eq_of_prefix (hu : u.IsSimple g keep start) (hpre : t.nodes <+: u.nodes)
    (hlast : t.last = u.last) : t.nodes = u.nodes := by
  obtain ⟨rest, hrest⟩ := hpre
  by_cases hnil : rest = []
  · rw [← hrest, hnil, List.append_nil]
  · exfalso
    have hnodup := hu.nodup
    have hend := u.getLast?_nodes
    rw [← hrest] at hnodup hend
    have hmem : u.last ∈ rest := by
      rw [List.getLast?_append_of_ne_nil _ hnil] at hend
      exact List.mem_of_getLast? hend
    exact (List.nodup_append.1 hnodup).2.2 t.last t.last_mem_nodes u.last hmem hlast

/-! ## The order of trails -/

/-- Shorter trails first, and of one length those with smaller nodes. -/
def Before (t u : Trail n) : Prop :=
  List.Shortlex (· < ·) t.nodes u.nodes

theorem Before.trans {t u v : Trail n} (htu : t.Before u) (huv : u.Before v) : t.Before v :=
  shortlex_trans (r := (· < ·)) (fun hab hbc => Fin.lt_trans hab hbc) htu huv

instance : Std.Asymm (Before (n := n)) :=
  ⟨fun _ _ h h' => Std.Asymm.asymm (r := List.Shortlex (· < ·)) _ _ h h'⟩

/-- The order in which trails wait for their turn. -/
def Ahead (t u : Trail n) : Prop :=
  t.nodes.length = u.nodes.length ∧ List.Lex (· < ·) t.nodes u.nodes ∨
    t.nodes.length + 1 = u.nodes.length ∧ List.Lex (· < ·) u.nodes.dropLast t.nodes

theorem Ahead.before (h : t.Ahead u) : t.Before u := by
  rcases h with ⟨hlen, hlex⟩ | ⟨hlen, -⟩
  · exact .of_lex hlen hlex
  · exact .of_length_lt (by omega)

theorem before_of_mem_extensions (hu : u ∈ t.extensions g keep) : t.Before u := by
  obtain ⟨l, i, -, -, -, rfl⟩ := mem_extensions.1 hu
  apply List.Shortlex.of_length_lt
  rw [length_nodes_step]
  omega

/-- What waits behind a trail is ahead of all that grows out of it. -/
theorem Ahead.ahead_extension {v : Trail n} (h : t.Ahead u) (hv : v ∈ t.extensions g keep) :
    u.Ahead v := by
  obtain ⟨l, i, -, -, -, rfl⟩ := mem_extensions.1 hv
  have hlen := t.length_nodes_step l i
  rcases h with ⟨htu, hlex⟩ | ⟨htu, hlex⟩
  · refine Or.inr ⟨by omega, ?_⟩
    rw [nodes, List.dropLast_concat]
    exact hlex
  · refine Or.inl ⟨by omega, ?_⟩
    rw [← List.dropLast_append_getLast u.nodes_ne_nil, nodes]
    refine lex_append hlex ?_ _ _
    rw [List.length_dropLast]
    omega

/-- The extensions of a trail are in the order of their turns. -/
theorem pairwise_ahead_extensions (g : LinkGrid n) (keep : Fin n → Bool) (t : Trail n) :
    (t.extensions g keep).Pairwise Ahead := by
  refine List.pairwise_map.2 (((g.pairwise_neighbors t.last).filter _).imp ?_)
  intro a b hab
  refine Or.inl ⟨?_, List.Lex.append_left _ (.rel hab) t.nodes⟩
  rw [length_nodes_step, length_nodes_step]

end Trail

end JoinPaths
