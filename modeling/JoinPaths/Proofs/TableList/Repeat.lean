import JoinPaths.Proofs.TableList.Sorting

/-!
# The name that is reported as repeated

In a sorted list equal names stand side by side, so a name that occurs several times is seen next to
itself; and the first name that is seen so is the smallest of these (`firstRepeat?_sorted`). Hence
tables make no list exactly if a name occurs several times among them, and the reason is the
smallest such name (`ofTables_eq_error_iff`).
-/

namespace JoinPaths.TableList

variable {tables : List Table} {name : String} {ts : TableList}

/-- The first name in a sorted list that stands next to itself is the smallest one of those that
occur several times. -/
theorem firstRepeat?_sorted (hsorted : tables.Pairwise fun a b => nameLe a b)
    (h : firstRepeat? tables = some name) :
    2 ≤ (tables.map Table.name).count name ∧
      ∀ other, 2 ≤ (tables.map Table.name).count other → name ≤ other := by
  fun_induction firstRepeat? tables with
  | case1 a b rest hab =>
    obtain rfl := Option.some.inj h
    refine ⟨?_, fun other hother => ?_⟩
    · rw [List.map_cons, List.map_cons, ← hab, List.count_cons_self, List.count_cons_self]
      omega
    · obtain ⟨t, ht, rfl⟩ := List.mem_map.1 (List.count_pos_iff.1 (Nat.lt_of_lt_of_le Nat.two_pos
        hother))
      rcases List.mem_cons.1 ht with rfl | ht
      · exact String.le_refl _
      · exact of_decide_eq_true ((List.pairwise_cons.1 hsorted).1 t ht)
  | case2 a b rest hab ih =>
    obtain ⟨hfirst, htail⟩ := List.pairwise_cons.1 hsorted
    obtain ⟨hcount, hleast⟩ := ih htail h
    -- the first name is below all others, so it occurs once
    have honce : a.name ∉ (b :: rest).map Table.name := by
      intro hmem
      obtain ⟨t, ht, hname⟩ := List.mem_map.1 hmem
      have hlt := name_lt_of_le_of_ne (hfirst b List.mem_cons_self) hab
      rcases List.mem_cons.1 ht with rfl | ht
      · exact hab hname.symm
      · have hle := of_decide_eq_true ((List.pairwise_cons.1 htail).1 t ht)
        rw [hname] at hle
        exact String.not_le.2 hlt hle
    refine ⟨Nat.le_trans hcount List.count_le_count_cons, fun other hother => hleast other ?_⟩
    rw [List.map_cons] at hother
    by_cases heq : a.name = other
    · subst heq
      rw [List.count_cons_self, List.count_eq_zero.2 honce] at hother
      omega
    · rwa [List.count_cons_of_ne heq] at hother
  | case3 => cases h

theorem nodup_of_ofTables (h : ofTables tables = .ok ts) : (tables.map Table.name).Nodup := by
  rw [← ((perm_of_ofTables h).map Table.name).nodup_iff]
  exact ts.nodup_names

theorem ofTables_eq_error_iff : ofTables tables = .error name ↔
    2 ≤ (tables.map Table.name).count name ∧
      ∀ other, 2 ≤ (tables.map Table.name).count other → name ≤ other := by
  have hreport : ∀ {name}, firstRepeat? (sorted tables) = some name →
      2 ≤ (tables.map Table.name).count name ∧
        ∀ other, 2 ≤ (tables.map Table.name).count other → name ≤ other := by
    intro name h
    have hperm : ((sorted tables).map Table.name).Perm (tables.map Table.name) :=
      (List.mergeSort_perm tables nameLe).map Table.name
    have hsorted := firstRepeat?_sorted (pairwise_sorted tables) h
    simp only [hperm.count_eq] at hsorted
    exact hsorted
  cases hfirst : firstRepeat? (sorted tables) with
  | none =>
    have hok := ofTables_eq_ok hfirst
    rw [hok]
    refine ⟨nofun, fun ⟨hcount, _⟩ => ?_⟩
    have := List.nodup_iff_count.1 (nodup_of_ofTables hok) name
    omega
  | some first =>
    obtain ⟨hcount, hleast⟩ := hreport hfirst
    rw [ofTables_eq_error hfirst, Except.error.injEq]
    constructor
    · rintro rfl
      exact ⟨hcount, hleast⟩
    · rintro ⟨hcount', hleast'⟩
      exact String.le_antisymm (hleast name hcount') (hleast' first hcount)

end JoinPaths.TableList
