import JoinPaths.Proofs.JoinGraph.Basic
import JoinPaths.Proofs.Search.Shortlex
import Mathlib.Data.List.Chain
import Mathlib.Data.List.Nodup

/-!
# Simple chains of tables

A simple chain leads from one table to another, each table linked to the next one, and no table
occurs twice. So it has at most as many tables as the graph, and all of them can be listed without
any search, by trying every sequence of names: `simpleChains` is that list, shorter chains first
and of one length those with smaller names first.
-/

namespace JoinPaths

/-! ## Sequences -/

/-- The sequences of a length whose members are among some items. -/
def sequences {α : Type} (items : List α) : Nat → List (List α)
  | 0 => [[]]
  | k + 1 => items.flatMap fun a => (sequences items k).map (a :: ·)

section Sequences

variable {α : Type} {items : List α} {r : α → α → Prop}

theorem mem_sequences {k : Nat} {l : List α} :
    l ∈ sequences items k ↔ l.length = k ∧ ∀ a ∈ l, a ∈ items := by
  induction k generalizing l with
  | zero =>
    rw [sequences, List.mem_singleton, List.length_eq_zero_iff]
    constructor
    · intro h
      refine ⟨h, fun a ha => ?_⟩
      rw [h] at ha
      exact absurd ha List.not_mem_nil
    · exact And.left
  | succ k ih =>
    rw [sequences, List.mem_flatMap]
    constructor
    · rintro ⟨a, ha, h⟩
      obtain ⟨m, hm, rfl⟩ := List.mem_map.1 h
      obtain ⟨hlen, hmem⟩ := ih.1 hm
      exact ⟨congrArg Nat.succ hlen, List.forall_mem_cons.2 ⟨ha, hmem⟩⟩
    · rintro ⟨hlen, hmem⟩
      cases l with
      | nil => exact absurd hlen (Nat.succ_ne_zero k).symm
      | cons a m =>
        obtain ⟨ha, hm⟩ := List.forall_mem_cons.1 hmem
        exact ⟨a, ha, List.mem_map.2 ⟨m, ih.2 ⟨Nat.succ.inj hlen, hm⟩, rfl⟩⟩

theorem pairwise_sequences (h : items.Pairwise r) (k : Nat) :
    (sequences items k).Pairwise (List.Lex r) := by
  induction k with
  | zero => exact List.pairwise_singleton _ _
  | succ k ih =>
    refine List.pairwise_flatMap.2 ⟨fun a _ => ?_, h.imp fun {a b} hab l hl m hm => ?_⟩
    · exact List.pairwise_map.2 (ih.imp fun h => .cons h)
    · obtain ⟨_, -, rfl⟩ := List.mem_map.1 hl
      obtain ⟨_, -, rfl⟩ := List.mem_map.1 hm
      exact .rel hab

end Sequences

/-! ## Chains -/

namespace JoinGraph

variable {g : JoinGraph} {source target : String} {names : List String}

/-- The names of tables that lead from one table to another, none of them twice. -/
structure IsSimpleChain (g : JoinGraph) (source target : String) (names : List String) :
    Prop where
  known : ∀ name ∈ names, name ∈ g.tableNames
  head : names.head? = some source
  last : names.getLast? = some target
  nodup : names.Nodup
  linked : names.IsChain fun a b => g.isLinked a b = true

theorem isSimpleChain_iff : g.IsSimpleChain source target names ↔
    (∀ name ∈ names, name ∈ g.tableNames) ∧ names.head? = some source ∧
      names.getLast? = some target ∧ names.Nodup ∧
        names.IsChain fun a b => g.isLinked a b = true :=
  ⟨fun h => ⟨h.known, h.head, h.last, h.nodup, h.linked⟩,
    fun ⟨hknown, hhead, hlast, hnodup, hlinked⟩ => ⟨hknown, hhead, hlast, hnodup, hlinked⟩⟩

instance : Decidable (g.IsSimpleChain source target names) :=
  decidable_of_iff' _ isSimpleChain_iff

theorem IsSimpleChain.source_mem (h : g.IsSimpleChain source target names) :
    source ∈ g.tableNames :=
  h.known source (List.mem_of_head? h.head)

theorem IsSimpleChain.target_mem (h : g.IsSimpleChain source target names) :
    target ∈ g.tableNames :=
  h.known target (List.mem_of_getLast? h.last)

theorem IsSimpleChain.length_le (h : g.IsSimpleChain source target names) :
    names.length ≤ g.tableNames.length :=
  h.nodup.length_le_of_subset fun name => h.known name

/-- A simple chain from a table to itself has no other table. -/
theorem isSimpleChain_self_iff (hs : source ∈ g.tableNames) :
    g.IsSimpleChain source source names ↔ names = [source] := by
  constructor
  · intro h
    have hhead := h.head
    have hlast := h.last
    have hnodup := h.nodup
    cases names with
    | nil => exact absurd hhead (by simp)
    | cons a names =>
      obtain rfl := Option.some.inj hhead
      by_cases hnil : names = []
      · rw [hnil]
      · rw [List.getLast?_cons_of_ne_nil hnil] at hlast
        exact absurd (List.mem_of_getLast? hlast) (List.nodup_cons.1 hnodup).1
  · rintro rfl
    exact ⟨fun name hname => List.mem_singleton.1 hname ▸ hs, rfl, rfl, List.nodup_singleton _,
      .singleton _⟩

theorem isSimpleChain_pair (hs : source ∈ g.tableNames) (ht : target ∈ g.tableNames)
    (hne : source ≠ target) (hlink : g.isLinked source target = true) :
    g.IsSimpleChain source target [source, target] := by
  refine ⟨?_, rfl, rfl, ?_, .cons_cons hlink (.singleton _)⟩
  · intro name hname
    rcases List.mem_pair.1 hname with rfl | rfl
    · exact hs
    · exact ht
  · rw [List.nodup_cons, List.mem_singleton]
    exact ⟨hne, List.nodup_singleton _⟩

/-- All simple chains from one table to another. -/
def simpleChains (g : JoinGraph) (source target : String) : List (List String) :=
  (List.range (g.tableNames.length + 1)).flatMap fun k =>
    (sequences g.tableNames k).filter fun names => g.IsSimpleChain source target names

theorem mem_simpleChains :
    names ∈ g.simpleChains source target ↔ g.IsSimpleChain source target names := by
  unfold simpleChains
  rw [List.mem_flatMap]
  constructor
  · rintro ⟨k, -, h⟩
    exact of_decide_eq_true (List.mem_filter.1 h).2
  · intro h
    refine ⟨names.length, List.mem_range.2 (Nat.lt_succ_of_le h.length_le), ?_⟩
    exact List.mem_filter.2 ⟨mem_sequences.2 ⟨rfl, h.known⟩, decide_eq_true h⟩

theorem pairwise_simpleChains (g : JoinGraph) (source target : String) :
    (g.simpleChains source target).Pairwise (List.Shortlex Text.ByteLt) := by
  refine List.pairwise_flatMap.2 ⟨fun k _ => ?_, List.pairwise_lt_range.imp ?_⟩
  · refine ((pairwise_sequences g.pairwise_tableNames k).filter _).imp_of_mem ?_
    intro l m hl hm h
    have hlen := (mem_sequences.1 (List.mem_filter.1 hl).1).1
    have hlen' := (mem_sequences.1 (List.mem_filter.1 hm).1).1
    exact .of_lex (hlen.trans hlen'.symm) h
  · intro k k' hk l hl m hm
    have hlen := (mem_sequences.1 (List.mem_filter.1 hl).1).1
    have hlen' := (mem_sequences.1 (List.mem_filter.1 hm).1).1
    exact .of_length_lt (by omega)

end JoinGraph

end JoinPaths
