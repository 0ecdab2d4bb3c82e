import JoinPaths.Settings.FromEnvironment

/-!
# Texts of numbers and truth values

A numeral is one ASCII digit or more, with a plus sign in front or without (`IsNumeral`). Digits are
read one after the other, and reading stops at the first number that does not fit in 64 bits. Digits
behind it can only make it larger, so that nothing is refused too early: what is read is what the
numeral stands for, if that fits (`readNatural_eq_ok_iff`).
-/

namespace JoinPaths.Settings

variable {value n : Nat} {digits : List Char} {s : String}

/-! ## Numerals -/

/-- Whether a text is a numeral and stands for this number. -/
def IsNumeral (s : String) (n : Nat) : Prop :=
  ∃ digits, (s.toList = digits ∨ s.toList = '+' :: digits) ∧ digits ≠ [] ∧
    (∀ c ∈ digits, c.isDigit = true) ∧ Nat.ofDigitChars 10 digits 0 = n

theorem ne_plus_cons {rest : List Char} (hdigits : ∀ c ∈ digits, c.isDigit = true) :
    digits ≠ '+' :: rest := by
  rintro rfl
  exact absurd (hdigits '+' List.mem_cons_self) (by decide)

/-- A numeral stands for one number only. -/
theorem IsNumeral.unique {m : Nat} (hm : IsNumeral s m) (hn : IsNumeral s n) : m = n := by
  obtain ⟨digits, heq, -, hdigits, rfl⟩ := hm
  obtain ⟨digits', heq', -, hdigits', rfl⟩ := hn
  have hsame : digits = digits' := by
    rcases heq with heq | heq <;> rcases heq' with heq' | heq'
    · exact heq.symm.trans heq'
    · exact absurd (heq.symm.trans heq') (ne_plus_cons hdigits)
    · exact absurd (heq'.symm.trans heq) (ne_plus_cons hdigits')
    · exact (List.cons.inj (heq.symm.trans heq')).2
  rw [hsame]

theorem le_ofDigitChars (digits : List Char) (value : Nat) :
    value ≤ Nat.ofDigitChars 10 digits value := by
  rw [Nat.ofDigitChars_eq_ofDigitChars_zero]
  calc
    value ≤ 10 ^ digits.length * value := Nat.le_mul_of_pos_left _ (Nat.pow_pos (by decide))
    _ ≤ 10 ^ digits.length * value + Nat.ofDigitChars 10 digits 0 := Nat.le_add_right _ _

theorem readDigits_eq_ok_iff (hvalue : value < UInt64.size) :
    readDigits value digits = .ok n ↔ (∀ c ∈ digits, c.isDigit = true) ∧
      Nat.ofDigitChars 10 digits value = n ∧ n < UInt64.size := by
  induction digits generalizing value with
  | nil =>
    rw [readDigits, Except.ok.injEq, Nat.ofDigitChars_nil]
    constructor
    · rintro rfl
      exact ⟨nofun, rfl, hvalue⟩
    · exact fun h => h.2.1
  | cons c digits ih =>
    have hcons : Nat.ofDigitChars 10 (c :: digits) value =
        Nat.ofDigitChars 10 digits (value * 10 + Text.digitValue c) := by
      rw [Nat.ofDigitChars_cons, Nat.mul_comm]
      rfl
    rw [readDigits, hcons, List.forall_mem_cons]
    by_cases hc : c.isDigit = true
    · rw [if_neg (by simp [hc])]
      dsimp only
      by_cases hfits : value * 10 + Text.digitValue c < UInt64.size
      · rw [if_pos hfits, ih hfits]
        simp [hc]
      · -- the digits behind it do not make the number smaller
        have hle := le_ofDigitChars digits (value * 10 + Text.digitValue c)
        rw [if_neg hfits]
        constructor
        · intro h
          cases h
        · rintro ⟨-, rfl, hlt⟩
          exact absurd (Nat.lt_of_le_of_lt hle hlt) hfits
    · rw [if_pos (by simpa using hc)]
      constructor
      · intro h
        cases h
      · exact fun h => absurd h.1.1 hc

/-- A number is read from a text exactly if the text is a numeral that stands for it and it fits. -/
theorem readNatural_eq_ok_iff :
    readNatural s.toList = .ok n ↔ IsNumeral s n ∧ n < UInt64.size := by
  unfold IsNumeral
  generalize s.toList = text
  have hplus : ('+' : Char).isDigit = false := rfl
  unfold readNatural
  split
  · -- no character at all
    simp
  · -- a plus sign alone is no digit, and no digit stands behind it
    simp [hplus, or_and_right, exists_or]
  · next digits hne =>
    rw [readDigits_eq_ok_iff (by decide)]
    constructor
    · rintro ⟨hdigits, hn, hlt⟩
      exact ⟨⟨digits, .inr rfl, hne, hdigits, hn⟩, hlt⟩
    · rintro ⟨⟨digits', heq | heq, -, hdigits, hn⟩, hlt⟩
      · exact absurd heq.symm (ne_plus_cons hdigits)
      · obtain rfl := (List.cons.inj heq).2
        exact ⟨hdigits, hn, hlt⟩
  · next hnil _ hother =>
    rw [readDigits_eq_ok_iff (by decide)]
    constructor
    · rintro ⟨hdigits, hn, hlt⟩
      exact ⟨⟨text, .inl rfl, hnil, hdigits, hn⟩, hlt⟩
    · rintro ⟨⟨digits, heq | heq, -, hdigits, hn⟩, hlt⟩
      · subst heq
        exact ⟨hdigits, hn, hlt⟩
      · exact absurd heq (hother digits)

theorem isNumeral_repr (n : Nat) : IsNumeral (Nat.repr n) n :=
  ⟨Nat.toDigits 10 n, .inl Nat.toList_repr, Nat.toDigits_ne_nil,
    fun _ => Nat.isDigit_of_mem_toDigits (by decide) (by decide), Nat.ofDigitChars_ten_toDigits⟩

/-! ## Truth values -/

/-- The text of a truth value. -/
def booleanText (b : Bool) : String :=
  if b then "true" else "false"

theorem booleanText_injective {b b' : Bool} (h : booleanText b = booleanText b') : b = b' := by
  revert b b'
  decide

theorem readBoolean?_eq_some_iff {b : Bool} : readBoolean? s = some b ↔ s = booleanText b := by
  unfold readBoolean? booleanText
  by_cases htrue : s = "true"
  · cases b <;> simp [htrue]
  · by_cases hfalse : s = "false"
    · cases b <;> simp [hfalse]
    · cases b <;> simp [htrue, hfalse]

end JoinPaths.Settings
