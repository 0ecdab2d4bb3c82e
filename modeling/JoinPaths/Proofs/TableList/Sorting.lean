import JoinPaths.Proofs.TableList.Lookup

/-!
# Tables in another order

To sort tables by name forgets the order in which they were given. Tables of one name may still
stand in either order, but a name that is repeated is seen among the sorted names, and these are the
same (`map_name_sorted_eq_of_perm`); and if no name is repeated, the sorted tables are the same as
well. So a table list, or the name because of which there is none, depends only on which tables
there are, and how often (`ofTables_eq_of_perm`).
-/

namespace JoinPaths.TableList

variable {tables tables' : List Table}

/-! ## Repeated names -/

theorem firstRepeat?_eq_of_map_name_eq (h : tables.map Table.name = tables'.map Table.name) :
    firstRepeat? tables = firstRepeat? tables' := by
  induction tables generalizing tables' with
  | nil =>
    obtain rfl := List.map_eq_nil_iff.1 h.symm
    rfl
  | cons a tables ih =>
    obtain ⟨a', tables', rfl, ha, hrest⟩ := List.map_eq_cons_iff.1 h.symm
    have htail := ih hrest.symm
    cases tables with
    | nil =>
      obtain rfl := List.map_eq_nil_iff.1 hrest
      rfl
    | cons b rest =>
      obtain ⟨b', rest', rfl, hb, -⟩ := List.map_eq_cons_iff.1 hrest
      rw [firstRepeat?, firstRepeat?, ha, hb, htail]

/-! ## Sorted tables -/

theorem pairwise_map_name_sorted (tables : List Table) :
    ((sorted tables).map Table.name).Pairwise (· ≤ ·) :=
  List.pairwise_map.2 ((pairwise_sorted tables).imp of_decide_eq_true)

theorem perm_sorted (h : tables.Perm tables') : (sorted tables).Perm (sorted tables') :=
  (List.mergeSort_perm tables nameLe).trans (h.trans (List.mergeSort_perm tables' nameLe).symm)

theorem map_name_sorted_eq_of_perm (h : tables.Perm tables') :
    (sorted tables).map Table.name = (sorted tables').map Table.name :=
  ((perm_sorted h).map Table.name).eq_of_pairwise (fun _ _ _ _ => String.le_antisymm)
    (pairwise_map_name_sorted tables) (pairwise_map_name_sorted tables')

theorem sorted_eq_of_perm (h : tables.Perm tables')
    (hnone : firstRepeat? (sorted tables) = none) : sorted tables = sorted tables' := by
  have hnone' : firstRepeat? (sorted tables') = none := by
    rw [← hnone]
    exact firstRepeat?_eq_of_map_name_eq (map_name_sorted_eq_of_perm h).symm
  refine (perm_sorted h).eq_of_pairwise (fun a b _ _ hab hba => ?_)
    (ascending_of_firstRepeat?_eq_none (pairwise_sorted tables) hnone)
    (ascending_of_firstRepeat?_eq_none (pairwise_sorted tables') hnone')
  exact absurd hba (String.lt_asymm hab)

/-! ## Table lists -/

theorem ofTables_eq_error {name : String} (h : firstRepeat? (sorted tables) = some name) :
    ofTables tables = .error name := by
  unfold ofTables
  split
  · next name' h' =>
    obtain rfl := Option.some.inj (h.symm.trans h')
    rfl
  · next h' =>
    rw [h] at h'
    cases h'

theorem ofTables_eq_ok (h : firstRepeat? (sorted tables) = none) :
    ofTables tables =
      .ok ⟨(sorted tables).toArray,
        ascending_of_firstRepeat?_eq_none (pairwise_sorted tables) h⟩ := by
  unfold ofTables
  split
  · next name h' =>
    rw [h] at h'
    cases h'
  · rfl

/-- What comes of some tables does not depend on the order in which they are given. -/
theorem ofTables_eq_of_perm (h : tables.Perm tables') : ofTables tables = ofTables tables' := by
  have hrepeat := firstRepeat?_eq_of_map_name_eq (map_name_sorted_eq_of_perm h)
  cases hfirst : firstRepeat? (sorted tables) with
  | some name =>
    rw [ofTables_eq_error hfirst, ofTables_eq_error (hrepeat ▸ hfirst)]
  | none =>
    rw [ofTables_eq_ok hfirst, ofTables_eq_ok (hrepeat ▸ hfirst)]
    congr 2
    rw [sorted_eq_of_perm h hfirst]

end JoinPaths.TableList
