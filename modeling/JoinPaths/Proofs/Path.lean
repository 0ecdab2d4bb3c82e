import JoinPaths.Path
import Mathlib.Data.List.Chain

/-!
# The two ends of a path

A path begins at its first table and grows at its last one. These lemmas say what tables, names and
hops are seen at either end.
-/

namespace JoinPaths.Path

variable (p : Path) (l : Linkage) (target : Table)

/-! ## Ends -/

theorem names_eq_cons : p.names = p.start.name :: p.hops.map fun hop => hop.2.name := by
  unfold names tables
  rw [List.map_cons, List.map_map]
  rfl

theorem length_names : p.names.length = p.length := by
  unfold names
  rw [List.length_map, length_tables]

@[simp] theorem head?_names : p.names.head? = some p.start.name := rfl

@[simp] theorem getLast?_tables : p.tables.getLast? = some p.finish :=
  List.getLast?_eq_some_getLast _

@[simp] theorem getLast?_names : p.names.getLast? = some p.finish.name := by
  unfold names
  rw [List.getLast?_map, getLast?_tables]
  rfl

theorem start_mem_tables : p.start ∈ p.tables :=
  List.mem_cons_self

theorem finish_mem_tables : p.finish ∈ p.tables :=
  List.mem_of_getLast? p.getLast?_tables

theorem isTrivial_iff : p.isTrivial = true ↔ p.names.length = 1 := by
  unfold isTrivial
  rw [List.isEmpty_iff_length_eq_zero, length_names]
  unfold length
  omega

/-! ## Growth -/

@[simp] theorem names_extend : (p.extend l target).names = p.names ++ [target.name] := by
  unfold names
  rw [tables_extend, List.map_append]
  rfl

@[simp] theorem finish_extend : (p.extend l target).finish = target := by
  have h := (p.extend l target).getLast?_tables
  rw [tables_extend, List.getLast?_concat] at h
  exact (Option.some.inj h).symm

theorem segmentsFrom_concat (source : Table) (hops : List (Linkage × Table)) :
    segmentsFrom source (hops ++ [(l, target)]) =
      segmentsFrom source hops ++ [((Path.mk source hops).finish, l, target)] := by
  induction hops generalizing source with
  | nil => rfl
  | cons hop hops ih =>
    rw [List.cons_append, segmentsFrom, ih, segmentsFrom, List.cons_append]
    rfl

theorem segments_extend :
    (p.extend l target).segments = p.segments ++ [(p.finish, l, target)] :=
  segmentsFrom_concat l target p.start p.hops

/-! ## Hops -/

theorem segments_eq_zip (p : Path) :
    p.segments = p.tables.zip (p.linkages.zip p.tables.tail) := by
  obtain ⟨source, hops⟩ := p
  induction hops generalizing source with
  | nil => rfl
  | cons hop hops ih =>
    obtain ⟨l, target⟩ := hop
    exact congrArg ((source, l, target) :: ·) (ih target)

theorem map_linkage_segments (p : Path) : p.segments.map (fun s => s.2.1) = p.linkages := by
  obtain ⟨source, hops⟩ := p
  induction hops generalizing source with
  | nil => rfl
  | cons hop hops ih => exact congrArg (hop.1 :: ·) (ih hop.2)

/-- What holds of the tables at both ends of every hop holds of all neighbours. -/
theorem isChain_names {p : Path} {r : String → String → Prop}
    (h : ∀ s ∈ p.segments, r s.1.name s.2.2.name) : p.names.IsChain r := by
  obtain ⟨source, hops⟩ := p
  induction hops generalizing source with
  | nil => exact .singleton _
  | cons hop hops ih =>
    obtain ⟨hhop, hhops⟩ := List.forall_mem_cons.1 h
    exact .cons_cons hhop (ih hop.2 hhops)

end JoinPaths.Path
