/-!
# Counting in lists

A property that holds of fewer members of a list is counted less often (`countP_lt`), and a total of
values below a bound is at most the number of values times the bound (`total_le`). Both measure how
much of a search is left.
-/

namespace JoinPaths

variable {α : Type}

/-- If `p` implies `q` on a list, and some member has `q` but not `p`, then `p` is counted less. -/
theorem countP_lt {p q : α → Bool} {items : List α} (hpq : ∀ a ∈ items, p a → q a) {b : α}
    (hb : b ∈ items) (hq : q b = true) (hp : p b = false) : items.countP p < items.countP q := by
  induction items with
  | nil => simp at hb
  | cons a items ih =>
    have hle : items.countP p ≤ items.countP q :=
      List.countP_mono_left fun x hx => hpq x (List.mem_cons_of_mem a hx)
    have ha := hpq a List.mem_cons_self
    simp only [List.countP_cons]
    rcases List.mem_cons.1 hb with rfl | hb
    · simp only [hp, hq]
      simp
      omega
    · have := ih (fun x hx => hpq x (List.mem_cons_of_mem a hx)) hb
      split
      · next h => simp only [ha h, if_true]; omega
      · split <;> omega

/-- The values of a function over a list, taken together. -/
def total (f : α → Nat) : List α → Nat
  | [] => 0
  | a :: items => f a + total f items

theorem total_append (f : α → Nat) (l m : List α) : total f (l ++ m) = total f l + total f m := by
  induction l with
  | nil => rw [List.nil_append, total, Nat.zero_add]
  | cons a l ih => rw [List.cons_append, total, total, ih, Nat.add_assoc]

/-- A total of values that are at most `bound`. -/
theorem total_le {f : α → Nat} {bound : Nat} {items : List α} (h : ∀ a ∈ items, f a ≤ bound) :
    total f items ≤ items.length * bound := by
  induction items with
  | nil => exact Nat.zero_le _
  | cons a items ih =>
    have ha := h a List.mem_cons_self
    have := ih fun x hx => h x (List.mem_cons_of_mem a hx)
    rw [total, List.length_cons, Nat.add_mul, Nat.one_mul]
    omega

end JoinPaths
