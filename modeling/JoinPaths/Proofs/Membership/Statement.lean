import JoinPaths.Membership.Query
import JoinPaths.Proofs.Path
import JoinPaths.Proofs.Sql.Database
import Mathlib.Data.List.Nodup

/-!
# The statement of a path

A statement introduces the tables of its path one by one, and joins each to the one before it. If no
table occurs twice, it is therefore clear which table every column belongs to
(`isScoped_statement`). It is read back from its text, whatever the names of the path are
(`read?_text_statement`).
-/

namespace JoinPaths.Path

open Sql (TableRef)

variable {p : Path} {schema : String}

/-! ## Tables -/

theorem map_target_segmentsFrom (source : Table) (hops : List (Linkage × Table)) :
    (segmentsFrom source hops).map (fun s => s.2.2) = hops.map Prod.snd := by
  induction hops generalizing source with
  | nil => rfl
  | cons hop hops ih =>
    obtain ⟨l, target⟩ := hop
    rw [segmentsFrom, List.map_cons, ih, List.map_cons]

theorem tables_statement (p : Path) (schema : String) :
    (p.statement schema).tables = p.names.map fun name => ⟨schema, name⟩ := by
  have htargets : (p.segments.map (joinOf schema)).map Sql.Join.table =
      (p.hops.map Prod.snd).map fun t => ⟨schema, t.name⟩ := by
    rw [← map_target_segmentsFrom p.start p.hops, List.map_map, List.map_map]
    rfl
  unfold Sql.Statement.tables statement
  rw [htargets, names_eq_cons, List.map_cons, List.map_map, List.map_map]
  rfl

/-! ## Scopes -/

theorem inScope_segmentsFrom {source : Table} {hops : List (Linkage × Table)}
    {seen : List TableRef} (hsource : ⟨schema, source.name⟩ ∈ seen)
    (hnew : ∀ hop ∈ hops, (⟨schema, hop.2.name⟩ : TableRef) ∉ seen)
    (hnodup : (hops.map fun hop => hop.2.name).Nodup) :
    Sql.inScope seen ((segmentsFrom source hops).map (joinOf schema)) = true := by
  induction hops generalizing source seen with
  | nil => rfl
  | cons hop hops ih =>
    obtain ⟨l, target⟩ := hop
    obtain ⟨htarget, hnew⟩ := List.forall_mem_cons.1 hnew
    obtain ⟨hfirst, hnodup⟩ := List.nodup_cons.1 hnodup
    have hrest : Sql.inScope (⟨schema, target.name⟩ :: seen)
        ((segmentsFrom target hops).map (joinOf schema)) = true := by
      refine ih List.mem_cons_self (fun hop hhop hmem => ?_) hnodup
      rcases List.mem_cons.1 hmem with heq | hmem
      · obtain ⟨-, hname⟩ := TableRef.mk.inj heq
        exact hfirst (List.mem_map.2 ⟨hop, hhop, hname⟩)
      · exact hnew hop hhop hmem
    have hunseen : seen.contains ⟨schema, target.name⟩ = false := by
      rw [← Bool.not_eq_true, List.contains_iff_mem]
      exact htarget
    rw [segmentsFrom, List.map_cons, Sql.inScope]
    simp only [joinOf, Bool.and_eq_true, Bool.not_eq_true', List.contains_iff_mem]
    exact ⟨⟨⟨hunseen, List.mem_cons_of_mem _ hsource⟩, List.mem_cons_self⟩, hrest⟩

/-- The statement of a path on which no table occurs twice is clear about its tables. -/
theorem isScoped_statement (schema : String) (hnodup : p.names.Nodup) :
    (p.statement schema).isScoped = true := by
  have hcount : ∀ t ∈ p.tables,
      ((p.statement schema).tables.map TableRef.table).count t.name = 1 := by
    intro t ht
    rw [tables_statement, List.map_map]
    have hmap : p.names.map (TableRef.table ∘ fun name => ⟨schema, name⟩) = p.names :=
      List.map_id'' (fun _ => rfl) _
    rw [hmap]
    exact List.count_eq_one_of_mem hnodup (List.mem_map.2 ⟨t, ht, rfl⟩)
  unfold Sql.Statement.isScoped
  rw [Bool.and_eq_true]
  constructor
  · rw [names_eq_cons] at hnodup
    obtain ⟨hstart, hnodup⟩ := List.nodup_cons.1 hnodup
    refine inScope_segmentsFrom List.mem_cons_self (fun hop hhop hmem => ?_) hnodup
    obtain ⟨-, hname⟩ := TableRef.mk.inj (List.mem_singleton.1 hmem)
    exact hstart (List.mem_map.2 ⟨hop, hhop, hname⟩)
  · apply List.all_eq_true.2
    intro f hf
    apply beq_iff_eq.2
    rcases List.mem_pair.1 hf with rfl | rfl
    · exact hcount p.start p.start_mem_tables
    · exact hcount p.finish p.finish_mem_tables

/-! ## Reading back -/

theorem flagColumn_ne_empty : flagColumn ≠ "" := by decide

theorem isWordChar_flagColumn : ∀ c ∈ flagColumn.toList, Sql.isWordChar c = true := by
  have hall : flagColumn.toList.all Sql.isWordChar = true := by decide
  exact List.all_eq_true.1 hall

theorem read?_text_statement (p : Path) (schema : String) :
    Sql.Statement.read? (p.statement schema).text = some (p.statement schema) :=
  Sql.Statement.read?_text _ flagColumn_ne_empty isWordChar_flagColumn (List.cons_ne_nil _ _)

end JoinPaths.Path
