import Mathlib.Data.List.Shortlex

/-!
# Shorter lists first

`List.Shortlex r` puts shorter lists first and compares lists of one length by their first
difference. Here are the facts about it on which the order of a search rests, and one about lists
in a strict order: members that leave out only what is behind them are the first ones
(`eq_take_of_forall_mem`).
-/

namespace JoinPaths

variable {α β : Type} {r : α → α → Prop} {s : β → β → Prop}

theorem shortlex_trans (hr : ∀ {a b c : α}, r a b → r b c → r a c) {l m k : List α}
    (hlm : List.Shortlex r l m) (hmk : List.Shortlex r m k) : List.Shortlex r l k := by
  rw [List.shortlex_def] at *
  rcases hlm with hlm | ⟨hlm, hlex⟩
  · rcases hmk with hmk | ⟨hmk, -⟩
    · exact Or.inl (hlm.trans hmk)
    · exact Or.inl (hmk ▸ hlm)
  · rcases hmk with hmk | ⟨hmk, hlex'⟩
    · exact Or.inl (hlm ▸ hmk)
    · exact Or.inr ⟨hlm.trans hmk, List.lex_trans hr hlex hlex'⟩

theorem lex_append {l m : List α} (h : List.Lex r l m) (hlen : l.length = m.length)
    (t u : List α) : List.Lex r (l ++ t) (m ++ u) := by
  induction h with
  | nil => simp at hlen
  | rel hab => exact .rel hab
  | cons _ ih => exact .cons (ih (Nat.succ.inj hlen))

theorem shortlex_map {f : α → β} (hf : ∀ a b, r a b → s (f a) (f b)) {l m : List α}
    (h : List.Shortlex r l m) : List.Shortlex s (l.map f) (m.map f) := by
  have hlex : ∀ {l m : List α}, List.Lex r l m → List.Lex s (l.map f) (m.map f) := by
    intro l m h
    induction h with
    | nil => exact .nil
    | rel hab => exact .rel (hf _ _ hab)
    | cons _ ih => exact .cons ih
  rw [List.shortlex_def, List.length_map, List.length_map]
  rcases List.shortlex_def.1 h with h | ⟨hlen, h⟩
  · exact Or.inl h
  · exact Or.inr ⟨hlen, hlex h⟩

theorem nodup_of_pairwise [Std.Asymm r] {l : List α} (h : l.Pairwise r) : l.Nodup := by
  refine h.imp fun {a b} hab => ?_
  rintro rfl
  exact Std.Asymm.asymm _ _ hab hab

/-- Lists in a strict order are known by their members. -/
theorem eq_of_pairwise_of_mem_iff [Std.Asymm r] {l m : List α} (hl : l.Pairwise r)
    (hm : m.Pairwise r) (h : ∀ a, a ∈ l ↔ a ∈ m) : l = m :=
  ((List.perm_ext_iff_of_nodup (nodup_of_pairwise hl) (nodup_of_pairwise hm)).2 h).eq_of_pairwise
    (fun _ _ _ _ hab hba => absurd hba (Std.Asymm.asymm _ _ hab)) hl hm

/-- Members of a list in a strict order are its first ones, if they are in that order and every
member left out is behind all of them and has no room. -/
theorem eq_take_of_forall_mem [Std.Asymm r] {all part : List α} {room : Nat}
    (hall : all.Pairwise r) (hpart : part.Pairwise r) (hmem : ∀ a ∈ part, a ∈ all)
    (hlen : part.length ≤ room)
    (hrest : ∀ a ∈ all, a ∉ part → part.length = room ∧ ∀ b ∈ part, r b a) :
    part = all.take room := by
  induction part generalizing all room with
  | nil =>
    cases all with
    | nil => simp
    | cons a all =>
      obtain ⟨hroom, -⟩ := hrest a List.mem_cons_self List.not_mem_nil
      rw [← hroom, List.length_nil, List.take_zero]
  | cons b part ih =>
    obtain ⟨hb, hpart'⟩ := List.pairwise_cons.1 hpart
    cases all with
    | nil => exact absurd (hmem b List.mem_cons_self) List.not_mem_nil
    | cons a all =>
      obtain ⟨ha, hall'⟩ := List.pairwise_cons.1 hall
      -- both lists begin with the same member: each of two different ones would be behind the other
      obtain rfl : a = b := by
        by_contra hab
        have hba : r b a := by
          by_cases hin : a ∈ part
          · exact hb a hin
          · refine (hrest a List.mem_cons_self fun h => ?_).2 b List.mem_cons_self
            rcases List.mem_cons.1 h with h | h
            · exact hab h
            · exact hin h
        have hb' : b ∈ all := by
          rcases List.mem_cons.1 (hmem b List.mem_cons_self) with h | h
          · exact absurd h.symm hab
          · exact h
        exact Std.Asymm.asymm _ _ hba (ha b hb')
      obtain ⟨room, rfl⟩ : ∃ k, room = k + 1 := ⟨room - 1, by
        simp only [List.length_cons] at hlen
        omega⟩
      rw [List.take_succ_cons]
      congr 1
      refine ih hall' hpart' (fun c hc => ?_) (Nat.le_of_succ_le_succ hlen) fun c hc hnot => ?_
      · rcases List.mem_cons.1 (hmem c (List.mem_cons_of_mem a hc)) with rfl | h
        · exact absurd (hb c hc) fun h => Std.Asymm.asymm _ _ h h
        · exact h
      · have hca : c ∉ a :: part := by
          intro h
          rcases List.mem_cons.1 h with rfl | h
          · exact Std.Asymm.asymm _ _ (ha c hc) (ha c hc)
          · exact hnot h
        obtain ⟨hroom, hbefore⟩ := hrest c (List.mem_cons_of_mem a hc) hca
        exact ⟨Nat.succ.inj hroom, fun d hd => hbefore d (List.mem_cons_of_mem a hd)⟩

end JoinPaths
