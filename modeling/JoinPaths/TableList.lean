import JoinPaths.Table

/-!
# Lists of tables in name order

A table list holds tables in strictly ascending order of their names, so that no name occurs twice
and a name is found by halving the list. It is made by sorting tables; if two of them bear the same
name, the smallest such name is the reason why there is no list.
-/

namespace JoinPaths

/-- Tables in strictly ascending order of their names. -/
structure TableList where
  entries : Array Table
  /-- Every name is below all names behind it. -/
  ascending : entries.toList.Pairwise fun a b => a.name < b.name

namespace TableList

/-! ## Sorting -/

/-- The order of tables by name. -/
def nameLe (a b : Table) : Bool :=
  decide (a.name ≤ b.name)

/-- The first name in a list that the next table bears too. -/
def firstRepeat? : List Table → Option String
  | a :: b :: rest => if a.name = b.name then some a.name else firstRepeat? (b :: rest)
  | _ => none

theorem name_lt_of_le_of_ne {a b : Table} (hle : nameLe a b) (hne : a.name ≠ b.name) :
    a.name < b.name := by
  refine Decidable.byContradiction fun h => hne ?_
  exact String.le_antisymm (of_decide_eq_true hle) (String.not_lt.1 h)

/-- A sorted list in which no table bears the name of the next one is strictly ascending. -/
theorem ascending_of_firstRepeat?_eq_none {tables : List Table}
    (hsorted : tables.Pairwise fun a b => nameLe a b) (hnone : firstRepeat? tables = none) :
    tables.Pairwise fun a b => a.name < b.name := by
  induction tables with
  | nil => exact .nil
  | cons a tables ih =>
    cases tables with
    | nil => exact List.pairwise_singleton _ _
    | cons b rest =>
      simp only [firstRepeat?] at hnone
      split at hnone
      · simp at hnone
      · next hne =>
        have htail := ih (List.pairwise_cons.1 hsorted).2 hnone
        have hab := name_lt_of_le_of_ne
          ((List.pairwise_cons.1 hsorted).1 b List.mem_cons_self) hne
        refine List.pairwise_cons.2 ⟨fun c hc => ?_, htail⟩
        rcases List.mem_cons.1 hc with rfl | hc
        · exact hab
        · exact String.lt_trans hab ((List.pairwise_cons.1 htail).1 c hc)

/-- Tables sorted by name; equal names stay in their order. -/
def sorted (tables : List Table) : List Table :=
  tables.mergeSort nameLe

theorem pairwise_sorted (tables : List Table) :
    (sorted tables).Pairwise fun a b => nameLe a b := by
  refine List.pairwise_mergeSort ?_ ?_ tables
  · intro a b c hab hbc
    exact decide_eq_true (String.le_trans (of_decide_eq_true hab) (of_decide_eq_true hbc))
  · intro a b
    rcases String.le_total a.name b.name with h | h <;> simp [nameLe, h]

/-- The table list of some tables, or the smallest name that several of them bear. -/
def ofTables (tables : List Table) : Except String TableList :=
  match h : firstRepeat? (sorted tables) with
  | some name => .error name
  | none =>
    .ok ⟨(sorted tables).toArray, ascending_of_firstRepeat?_eq_none (pairwise_sorted tables) h⟩

/-! ## Looking up names -/

def size (ts : TableList) : Nat :=
  ts.entries.size

def get (ts : TableList) (i : Fin ts.size) : Table :=
  have h : i.val < ts.entries.size := i.isLt
  ts.entries[i.val]

def toList (ts : TableList) : List Table :=
  ts.entries.toList

/-- Looks for a name from place `lo` to before place `hi`, in the half in which it must be. -/
def findBetween? (ts : TableList) (name : String) (lo hi : Nat) (hhi : hi ≤ ts.size) :
    Option (Fin ts.size) :=
  if hlt : lo < hi then
    let mid := lo + (hi - lo) / 2
    have hmid : mid < ts.size := by omega
    let here := (ts.get ⟨mid, hmid⟩).name
    if name < here then findBetween? ts name lo mid (Nat.le_of_lt hmid)
    else if here < name then findBetween? ts name (mid + 1) hi hhi
    else some ⟨mid, hmid⟩
  else none
termination_by hi - lo
decreasing_by all_goals omega

/-- The place of the table with a name. -/
def find? (ts : TableList) (name : String) : Option (Fin ts.size) :=
  ts.findBetween? name 0 ts.size (Nat.le_refl _)

end TableList

end JoinPaths
