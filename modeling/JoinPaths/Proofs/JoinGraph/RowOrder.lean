import JoinPaths.Proofs.JoinGraph.Outcome
import JoinPaths.Proofs.TableList.Sorting

/-!
# The order of rows

Of two foreign keys between the same tables the later one counts. Apart from that, rows make the
same graph in whatever order they are given (`ofRows_of_keepsPairOrder`).

1. The primary keys make the same table list, or fail for the same repeated table, since they are
   sorted first (`TableList.ofTables_eq_of_perm`).
2. Whether every foreign key has tables at both ends does not depend on the order
   (`firstUnresolved?_eq_none_of_perm`), and which one is the first that has not depends only on the
   order of the foreign keys (`firstUnresolved?_eq_of_filter_eq`).
3. A cell of the grid is what the rows between its two tables say last, and these keep their order
   (`enterRows_eq_of_keepsPairOrder`).
-/

namespace JoinPaths

open Catalog (Row)

/-! ## Rows that keep their order -/

theorem filterMap_eq_of_filter_eq {α β : Type} {p : α → Bool} {f : α → Option β} {l m : List α}
    (hf : ∀ a, p a = false → f a = none) (h : l.filter p = m.filter p) :
    l.filterMap f = m.filterMap f := by
  have hfilter : ∀ items : List α, items.filterMap f = (items.filter p).filterMap f := by
    intro items
    rw [List.filterMap_filter]
    apply List.filterMap_congr
    intro a _
    by_cases ha : p a = true
    · rw [if_pos ha]
    · rw [if_neg ha, hf a (Bool.eq_false_of_not_eq_true ha)]
  rw [hfilter l, hfilter m, h]

namespace Catalog.Row

/-- Whether a row is a foreign key. -/
def isForeign : Row → Bool
  | primary .. => false
  | foreign .. => true

/-- Whether two lists hold the same rows, those between the same two tables in the same order. -/
structure KeepsPairOrder (directed : Bool) (rows rows' : List Row) : Prop where
  perm : rows.Perm rows'
  between : ∀ source target,
    rows.filter (isBetween directed source target) = rows'.filter (isBetween directed source target)

end Catalog.Row

namespace JoinGraph

variable {rows rows' : List Row} {schema : String} {directed : Bool} {tables : TableList}

/-! ## Unresolved references -/

theorem firstUnresolved?_eq_none_of_perm (h : rows.Perm rows') :
    firstUnresolved? tables rows = none ↔ firstUnresolved? tables rows' = none := by
  rw [firstUnresolved?_eq_none_iff, firstUnresolved?_eq_none_iff]
  exact forall_congr' fun row => imp_congr_left h.mem_iff

theorem firstUnresolved?_eq_of_filter_eq
    (h : rows.filter Row.isForeign = rows'.filter Row.isForeign) :
    firstUnresolved? tables rows = firstUnresolved? tables rows' := by
  unfold firstUnresolved?
  rw [← List.head?_filterMap, ← List.head?_filterMap]
  refine congrArg List.head? (filterMap_eq_of_filter_eq (fun row hrow => ?_) h)
  cases row with
  | primary => rfl
  | foreign => cases hrow

/-! ## Linkages -/

/-- Rows enter the same linkages if those between the same two tables are in the same order. -/
theorem enterRows_eq_of_keepsPairOrder (h : Row.KeepsPairOrder directed rows rows')
    {links links' : LinkGrid tables.size}
    (hlinks : enterRows tables directed (.empty _) rows = .ok links)
    (hlinks' : enterRows tables directed (.empty _) rows' = .ok links') : links = links' := by
  apply LinkGrid.ext_get
  intro i j
  have hsays : rows.filterMap (Row.linkageIn? directed (tables.get i).name (tables.get j).name) =
      rows'.filterMap (Row.linkageIn? directed (tables.get i).name (tables.get j).name) := by
    refine filterMap_eq_of_filter_eq (fun row hrow => ?_)
      (h.between (tables.get i).name (tables.get j).name)
    rw [← Row.isSome_linkageIn?, Option.isSome_eq_false_iff, Option.isNone_iff_eq_none] at hrow
    exact hrow
  rw [get_enterRows hlinks, get_enterRows hlinks', hsays]

/-! ## Graphs -/

/-- If the foreign keys between the same two tables stay in their order, rows make the same graph in
every order, and fail for the same repeated table; and if all foreign keys stay in their order, what
comes of the rows is the same in every case. -/
theorem ofRows_of_keepsPairOrder (h : Row.KeepsPairOrder directed rows rows') (schema : String) :
    (∀ g, ofRows rows schema directed = .ok g ↔ ofRows rows' schema directed = .ok g) ∧
    (∀ name, ofRows rows schema directed = .error (.duplicateTable name) ↔
      ofRows rows' schema directed = .error (.duplicateTable name)) ∧
    (rows.filter Row.isForeign = rows'.filter Row.isForeign →
      ofRows rows schema directed = ofRows rows' schema directed) := by
  have hperm : (primaryTables rows).Perm (primaryTables rows') := h.perm.filterMap _
  have hprimary := TableList.ofTables_eq_of_perm hperm
  cases htables : TableList.ofTables (primaryTables rows) with
  | error name =>
    rw [htables] at hprimary
    have heq := (ofRows_eq_duplicateTable schema directed htables).trans
      (ofRows_eq_duplicateTable schema directed hprimary.symm).symm
    rw [heq]
    exact ⟨fun _ => Iff.rfl, fun _ => Iff.rfl, fun _ => rfl⟩
  | ok tables =>
    rw [htables] at hprimary
    cases hfirst : firstUnresolved? tables rows with
    | none =>
      have hfirst' := (firstUnresolved?_eq_none_of_perm h.perm).1 hfirst
      obtain ⟨links, hlinks, hg⟩ := exists_ofRows_eq_ok schema directed htables hfirst
      obtain ⟨links', hlinks', hg'⟩ := exists_ofRows_eq_ok schema directed hprimary.symm hfirst'
      obtain rfl := enterRows_eq_of_keepsPairOrder h hlinks hlinks'
      rw [hg, hg']
      exact ⟨fun _ => Iff.rfl, fun _ => Iff.rfl, fun _ => rfl⟩
    | some ends =>
      have he := ofRows_eq_unresolvedReference schema directed htables hfirst
      cases hfirst' : firstUnresolved? tables rows' with
      | none =>
        rw [(firstUnresolved?_eq_none_of_perm h.perm).2 hfirst'] at hfirst
        cases hfirst
      | some ends' =>
        have he' := ofRows_eq_unresolvedReference schema directed hprimary.symm hfirst'
        rw [he, he']
        refine ⟨fun g => ⟨nofun, nofun⟩, fun name => ⟨nofun, nofun⟩, fun hforeign => ?_⟩
        rw [firstUnresolved?_eq_of_filter_eq hforeign, hfirst'] at hfirst
        obtain rfl := Option.some.inj hfirst
        rfl

/-- Rows of two tables that refer to each other make the same graph if the foreign key of a table to
itself is put first and the primary keys are exchanged. -/
theorem ofRows_of_mutualRows_reordered :
    Row.KeepsPairOrder false mutualRows
      [.foreign "a" "up" "a" "id", .primary "a" "id", .foreign "a" "x" "b" "id",
        .foreign "b" "y" "a" "id", .primary "b" "id"] ∧
    ∃ g, ofRows mutualRows "s" false = .ok g ∧
      ofRows [.foreign "a" "up" "a" "id", .primary "a" "id", .foreign "a" "x" "b" "id",
        .foreign "b" "y" "a" "id", .primary "b" "id"] "s" false = .ok g := by
  have hkeeps : Row.KeepsPairOrder false mutualRows
      [.foreign "a" "up" "a" "id", .primary "a" "id", .foreign "a" "x" "b" "id",
        .foreign "b" "y" "a" "id", .primary "b" "id"] := by
    refine ⟨by decide, fun source target => ?_⟩
    -- the foreign key that changes its place is between other tables than those it passes
    rcases eq_or_ne "a" source with rfl | hs <;> rcases eq_or_ne "a" target with rfl | ht <;>
      simp_all [mutualRows, List.filter_cons, Row.isBetween, Row.ends]
  obtain ⟨g, hg⟩ := exists_ofRows mutualRows "s" false (by decide) (by decide)
  exact ⟨hkeeps, g, hg, ((ofRows_of_keepsPairOrder hkeeps "s").1 g).1 hg⟩

end JoinGraph

end JoinPaths
