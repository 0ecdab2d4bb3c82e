import JoinPaths.Proofs.Text.ByteOrder
import JoinPaths.TableList
import Mathlib.Data.Fin.Basic

/-!
# Looking up names in a table list

The places of a table list are in the order of the names (`name_get_lt_iff`), so a name stands at
one place at most (`name_get_inj`). Halving finds it there: whatever part of the list is left, the
name is in it or nowhere (`findBetween?_of_name_get`). Hence `find?_eq_some_iff` and
`find?_eq_none_iff` say that looking up a name is looking at all tables.
-/

namespace JoinPaths.TableList

variable {ts : TableList}

/-! ## Places and names -/

theorem length_toList (ts : TableList) : ts.toList.length = ts.size :=
  Array.length_toList

theorem getElem_toList {i : Nat} (h : i < ts.toList.length) :
    ts.toList[i] = ts.get ⟨i, ts.length_toList ▸ h⟩ := rfl

theorem mem_toList_iff {t : Table} : t ∈ ts.toList ↔ ∃ i, ts.get i = t := by
  constructor
  · intro h
    obtain ⟨i, hi, rfl⟩ := List.getElem_of_mem h
    exact ⟨⟨i, ts.length_toList ▸ hi⟩, (getElem_toList hi).symm⟩
  · rintro ⟨i, rfl⟩
    have hi : i.val < ts.toList.length := Nat.lt_of_lt_of_eq i.isLt ts.length_toList.symm
    exact List.mem_of_getElem (getElem_toList hi)

theorem pairwise_names (ts : TableList) : (ts.toList.map Table.name).Pairwise Text.ByteLt :=
  List.pairwise_map.2 (ts.ascending.imp Text.byteLt_iff.2)

theorem nodup_names (ts : TableList) : (ts.toList.map Table.name).Nodup :=
  List.pairwise_map.2 (ts.ascending.imp String.ne_of_lt)

theorem name_get_lt {i j : Fin ts.size} (h : i < j) : (ts.get i).name < (ts.get j).name :=
  List.pairwise_iff_getElem.1 ts.ascending i j _ _ h

theorem name_get_lt_iff {i j : Fin ts.size} : (ts.get i).name < (ts.get j).name ↔ i < j := by
  constructor
  · intro h
    by_contra hij
    by_cases heq : j = i
    · rw [heq] at h
      exact String.lt_irrefl _ h
    · have hji : j < i := by omega
      exact String.lt_asymm h (name_get_lt hji)
  · exact name_get_lt

theorem name_get_inj {i j : Fin ts.size} : (ts.get i).name = (ts.get j).name ↔ i = j := by
  constructor
  · intro h
    by_contra hij
    by_cases hlt : i < j
    · exact String.ne_of_lt (name_get_lt hlt) h
    · have hgt : j < i := by omega
      exact String.ne_of_lt (name_get_lt hgt) h.symm
  · rintro rfl
    rfl

/-! ## Halving -/

/-- What halving finds bears the name. -/
theorem name_get_of_findBetween? {name : String} {lo hi : Nat} {hhi : hi ≤ ts.size}
    {i : Fin ts.size} (h : ts.findBetween? name lo hi hhi = some i) : (ts.get i).name = name := by
  fun_induction ts.findBetween? name lo hi hhi with
  | case1 lo hi hhi hlt mid hmid here hbelow ih => exact ih h
  | case2 lo hi hhi hlt mid hmid here hbelow habove ih => exact ih h
  | case3 lo hi hhi hlt mid hmid here hbelow habove =>
    obtain rfl := Option.some.inj h
    exact String.le_antisymm hbelow habove
  | case4 lo hi hhi hlt => simp at h

/-- Halving finds a name that stands in the part it looks at. -/
theorem findBetween?_of_name_get {name : String} {lo hi : Nat} {hhi : hi ≤ ts.size}
    {i : Fin ts.size} (hname : (ts.get i).name = name) (hlo : lo ≤ i.val) (hi' : i.val < hi) :
    ts.findBetween? name lo hi hhi = some i := by
  fun_induction ts.findBetween? name lo hi hhi with
  | case1 lo hi hhi hlt mid hmid here hbelow ih =>
    rw [← hname] at hbelow
    exact ih hlo (name_get_lt_iff.1 hbelow)
  | case2 lo hi hhi hlt mid hmid here hbelow habove ih =>
    rw [← hname] at habove
    exact ih (name_get_lt_iff.1 habove) hi'
  | case3 lo hi hhi hlt mid hmid here hbelow habove =>
    have : (ts.get ⟨mid, hmid⟩).name = (ts.get i).name :=
      (String.le_antisymm hbelow habove).trans hname.symm
    rw [name_get_inj.1 this]
  | case4 lo hi hhi hlt => omega

theorem find?_eq_some_iff {name : String} {i : Fin ts.size} :
    ts.find? name = some i ↔ (ts.get i).name = name :=
  ⟨name_get_of_findBetween?, fun h => findBetween?_of_name_get h (Nat.zero_le _) i.isLt⟩

theorem find?_eq_none_iff {name : String} :
    ts.find? name = none ↔ ∀ i, (ts.get i).name ≠ name := by
  rw [Option.eq_none_iff_forall_ne_some]
  exact forall_congr' fun i => not_congr find?_eq_some_iff

/-! ## Making a list -/

theorem perm_of_ofTables {tables : List Table} (h : ofTables tables = .ok ts) :
    ts.toList.Perm tables := by
  unfold ofTables at h
  split at h
  · simp at h
  · obtain rfl := Except.ok.inj h
    exact List.mergeSort_perm _ _

theorem firstRepeat?_eq_none {tables : List Table} (h : (tables.map Table.name).Nodup) :
    firstRepeat? tables = none := by
  fun_induction firstRepeat? tables with
  | case1 a b rest hab =>
    rw [List.map_cons, List.map_cons, hab] at h
    exact absurd List.mem_cons_self (List.nodup_cons.1 h).1
  | case2 a b rest hab ih => exact ih (List.nodup_cons.1 h).2
  | case3 => rfl

theorem exists_ofTables {tables : List Table} (h : (tables.map Table.name).Nodup) :
    ∃ ts, ofTables tables = .ok ts := by
  have hperm : (sorted tables).Perm tables := List.mergeSort_perm _ _
  have hnone := firstRepeat?_eq_none ((hperm.map Table.name).nodup_iff.2 h)
  unfold ofTables
  split
  · next name hsome =>
    rw [hnone] at hsome
    exact absurd hsome (by simp)
  · exact ⟨_, rfl⟩

end JoinPaths.TableList
