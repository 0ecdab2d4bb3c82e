import JoinPaths.Proofs.JoinGraph.Failure
import JoinPaths.Proofs.Raw.Graph

/-!
# Ways to look up a name

The tables of some primary keys are sorted, and a name is looked up among them by halving. One may
stop as soon as the name is met, or halve on until one place is left and compare the name there; and
one may look at one table after the other without any order. Here all three give the same place.

1. `Locates` says what a lookup is for: the place of a table with the name, or that there is none.
   If no name is repeated, only one answer fits (`Locates.unique`).
2. Looking at one table after the other gives such an answer in every list (`locates_scan?`).
   Halving gives it in a table list, since whatever part is left, the name is in it or nowhere
   (`locates_find?`, `exists_narrow?`).
3. Tables that make a list have different names, so the answers agree
   (`find?_eq_scan?_of_primaryTables`).
-/

namespace JoinPaths

open Catalog (Row)

namespace Raw

/-! ## Lookups -/

/-- Looks at one table after the other. -/
def scan? (tables : List Table) (name : String) : Option Nat :=
  tables.findIdx? fun t => t.name == name

/-- Halves the `size` places from `base` on until one place is left, and compares the name there. -/
def narrow? (tables : List Table) (name : String) (base size : Nat) : Option (Option Nat) :=
  if h : 1 < size then do
    let here ← tables[base + size / 2]?
    if name < here.name then narrow? tables name base (size - size / 2)
    else narrow? tables name (base + size / 2) (size - size / 2)
  else do
    let here ← tables[base]?
    return if here.name = name then some base else none
termination_by size
decreasing_by all_goals omega

/-- The place of the table with a name, in tables that must be sorted. Only the place that is left
at the end is compared for equality. -/
def findNarrowing? (tables : List Table) (name : String) : Option (Option Nat) :=
  if isSorted tables then
    if tables.length = 0 then return none else narrow? tables name 0 tables.length
  else none

/-- Whether a place is that of a table with a name, and there is no place only if there is no such
table. -/
inductive Locates (tables : List Table) (name : String) : Option Nat → Prop
  | found {i : Nat} {t : Table} (h : tables[i]? = some t) (hname : t.name = name) :
      Locates tables name (some i)
  | absent (h : ∀ t ∈ tables, t.name ≠ name) : Locates tables name none

variable {tables : List Table} {name : String}

/-- Among tables of different names there is one answer. -/
theorem Locates.unique (hnodup : (tables.map Table.name).Nodup) {place place' : Option Nat}
    (h : Locates tables name place) (h' : Locates tables name place') : place = place' := by
  cases h with
  | @found i t hi ht =>
    cases h' with
    | @found j u hj hu =>
      have hlt : i < (tables.map Table.name).length := by
        rw [List.length_map]
        exact (List.getElem?_eq_some_iff.1 hi).1
      have hsame : (tables.map Table.name)[i]? = (tables.map Table.name)[j]? := by
        rw [List.getElem?_map, List.getElem?_map, hi, hj, Option.map_some, Option.map_some, ht, hu]
      rw [(List.getElem?_inj hlt hnodup).1 hsame]
    | absent hnone => exact absurd ht (hnone t (List.mem_of_getElem? hi))
  | absent hnone =>
    cases h' with
    | @found j u hj hu => exact absurd hu (hnone u (List.mem_of_getElem? hj))
    | absent => rfl

theorem locates_scan? (tables : List Table) (name : String) :
    Locates tables name (scan? tables name) := by
  cases h : scan? tables name with
  | none =>
    refine .absent fun t ht hname => ?_
    have hmiss := List.findIdx?_eq_none_iff.1 h t ht
    rw [hname, beq_self_eq_true] at hmiss
    cases hmiss
  | some i =>
    obtain ⟨hi, hname, -⟩ := List.findIdx?_eq_some_iff_getElem.1 h
    exact .found (List.getElem?_eq_getElem hi) (beq_iff_eq.1 hname)

end Raw

namespace TableList

variable (ts : TableList) (name : String)

theorem locates_find? : Raw.Locates ts.toList name ((ts.find? name).map Fin.val) := by
  cases h : ts.find? name with
  | none =>
    refine .absent fun t ht => ?_
    obtain ⟨i, rfl⟩ := mem_toList_iff.1 ht
    exact find?_eq_none_iff.1 h i
  | some i => exact .found (ts.getElem?_toList i) (find?_eq_some_iff.1 h)

variable {ts name}

/-- Halving on until one place is left locates a name, if the name is nowhere but in the part that
is halved. -/
theorem exists_narrow? {base size : Nat} (hpos : 0 < size) (hle : base + size ≤ ts.size)
    (hpart : ∀ i, (ts.get i).name = name → base ≤ i.val ∧ i.val < base + size) :
    ∃ place, Raw.narrow? ts.toList name base size = some place ∧
      Raw.Locates ts.toList name place := by
  fun_induction Raw.narrow? ts.toList name base size with
  | case1 base size hmore ihBelow ihAbove =>
    have hmid : base + size / 2 < ts.size := by omega
    have hside : ∀ i, (ts.get i).name < (ts.get ⟨base + size / 2, hmid⟩).name ↔
        i.val < base + size / 2 := fun i => name_get_lt_iff
    rw [ts.getElem?_toList ⟨base + size / 2, hmid⟩]
    show ∃ place, (if name < (ts.get ⟨base + size / 2, hmid⟩).name then _ else _) = _ ∧ _
    -- the name stands before the middle exactly if it is below the name there
    by_cases hlt : name < (ts.get ⟨base + size / 2, hmid⟩).name
    · rw [if_pos hlt]
      refine ihBelow (by omega) (by omega) fun i hi => ?_
      have hi' : i.val < base + size / 2 := by
        rw [← hi] at hlt
        exact (hside i).1 hlt
      have hmem := hpart i hi
      omega
    · rw [if_neg hlt]
      refine ihAbove (by omega) (by omega) fun i hi => ?_
      have hi' : ¬ i.val < base + size / 2 := by
        rw [← hi] at hlt
        exact mt (hside i).2 hlt
      have hmem := hpart i hi
      omega
  | case2 base size hone =>
    have hbase : base < ts.size := by omega
    have hhere := ts.getElem?_toList ⟨base, hbase⟩
    rw [hhere]
    by_cases hname : (ts.get ⟨base, hbase⟩).name = name
    · exact ⟨some base, congrArg some (if_pos hname), .found hhere hname⟩
    · refine ⟨none, congrArg some (if_neg hname), .absent fun t ht hi => ?_⟩
      obtain ⟨i, rfl⟩ := mem_toList_iff.1 ht
      have hmem := hpart i hi
      have hi' : i.val = base := by omega
      obtain rfl : i = ⟨base, hbase⟩ := Fin.ext hi'
      exact hname hi

theorem exists_findNarrowing? (ts : TableList) (name : String) :
    ∃ place, Raw.findNarrowing? ts.toList name = some place ∧
      Raw.Locates ts.toList name place := by
  have hsorted : Raw.isSorted ts.toList = true := Raw.isSorted_of_pairwise ts.ascending
  unfold Raw.findNarrowing?
  rw [if_pos hsorted, ts.length_toList]
  by_cases hempty : ts.size = 0
  · refine ⟨none, if_pos hempty, .absent fun t ht => ?_⟩
    obtain ⟨i, -⟩ := mem_toList_iff.1 ht
    exact absurd i.isLt (by omega)
  · rw [if_neg hempty]
    exact exists_narrow? (Nat.pos_of_ne_zero hempty) (by omega) fun i _ => by omega

/-! ## Agreement -/

variable {rows : List Row}

/-- If the primary keys of some rows make a table list, it holds these rows in ascending order of
their names. A name is found at a place exactly if it stands there, which is one place at most, and
not found exactly if it has no primary key. Whether one halves until the name is met or until one
place is left, the place is the one that is found by looking at one table after the other. -/
theorem find?_eq_scan?_of_primaryTables
    (h : ofTables (JoinGraph.primaryTables rows) = .ok ts) :
    (ts.toList.map Table.primaryRow).Perm (rows.filter Row.isPrimary) ∧
    (ts.toList.map Table.name).Pairwise Text.ByteLt ∧
    ∀ name,
      (∀ i, ts.find? name = some i ↔ (ts.get i).name = name) ∧
      (∀ i j, (ts.get i).name = name → (ts.get j).name = name → i = j) ∧
      (ts.find? name = none ↔ ∀ column, .primary name column ∉ rows) ∧
      (ts.find? name).map Fin.val = Raw.scan? ts.toList name ∧
      Raw.find? ts.toList name = some (Raw.scan? ts.toList name) ∧
      Raw.findNarrowing? ts.toList name = some (Raw.scan? ts.toList name) := by
  have hscan : ∀ name, (ts.find? name).map Fin.val = Raw.scan? ts.toList name := fun name =>
    (ts.locates_find? name).unique ts.nodup_names (Raw.locates_scan? ts.toList name)
  refine ⟨?_, ts.pairwise_names, fun name =>
    ⟨fun i => find?_eq_some_iff, fun i j hi hj => name_get_inj.1 (hi.trans hj.symm), ?_,
      hscan name, ?_, ?_⟩⟩
  · rw [← JoinGraph.map_primaryRow_primaryTables]
    exact (perm_of_ofTables h).map Table.primaryRow
  · rw [find?_eq_none_iff, ← not_exists, JoinGraph.exists_name_get_iff h, not_exists]
  · rw [find?_raw, hscan]
  · obtain ⟨place, hplace, hlocates⟩ := exists_findNarrowing? ts name
    rw [hplace, hlocates.unique ts.nodup_names (Raw.locates_scan? ts.toList name)]

/-- Tables whose names begin alike, and one with the empty name, in no order. -/
def nestedNameRows : List Row :=
  [.primary "orders" "id", .foreign "orders" "parent" "order" "id", .primary "" "id",
    .primary "örder" "id", .primary "order" "id"]

/-- A name that another one begins with is found at its own place, and a beginning that is no name
is not found. -/
theorem find?_eq_scan?_of_nestedNameRows :
    ∃ ts, ofTables (JoinGraph.primaryTables nestedNameRows) = .ok ts ∧
      ts.toList.map Table.name = ["", "order", "orders", "örder"] ∧
      (ts.find? "order").map Fin.val = some 1 ∧
      Raw.find? ts.toList "" = some (some 0) ∧
      Raw.findNarrowing? ts.toList "örder" = some (some 3) ∧
      ts.find? "orde" = none := by
  have hnodup : ((JoinGraph.primaryTables nestedNameRows).map Table.name).Nodup := by decide
  obtain ⟨ts, hts⟩ := exists_ofTables hnodup
  obtain ⟨hperm, hascending, hlookup⟩ := find?_eq_scan?_of_primaryTables hts
  have hnames : ts.toList.map Table.name = ["", "order", "orders", "örder"] := by
    have hsame : (ts.toList.map Table.name).Perm ["orders", "", "örder", "order"] := by
      have htables := hperm.map Row.table
      rw [List.map_map] at htables
      exact htables
    refine (hsame.trans (by decide)).eq_of_pairwise (fun a b _ _ hab hba => ?_) hascending
      (by decide +kernel)
    exact absurd hba (Std.Asymm.asymm _ _ hab)
  have hscan : ∀ name, Raw.scan? ts.toList name =
      ["", "order", "orders", "örder"].findIdx? (· == name) := by
    intro name
    rw [← hnames, List.findIdx?_map]
    rfl
  refine ⟨ts, hts, hnames, ?_, ?_, ?_, ?_⟩
  · obtain ⟨-, -, -, hfind, -⟩ := hlookup "order"
    rw [hfind, hscan]
    rfl
  · obtain ⟨-, -, -, -, hhalve, -⟩ := hlookup ""
    rw [hhalve, hscan]
    rfl
  · obtain ⟨-, -, -, -, -, hnarrow⟩ := hlookup "örder"
    rw [hnarrow, hscan]
    rfl
  · obtain ⟨-, -, hnone, -⟩ := hlookup "orde"
    refine hnone.2 fun column hrow => ?_
    simp [nestedNameRows] at hrow

end TableList

end JoinPaths
