import JoinPaths.Json.Lexeme
import JoinPaths.Json.Writer
import JoinPaths.Proofs.Except

/-!
# Reading back the parts of a compact text

What the writer puts down for an integer, a string or a key is read back by the reader, whatever
stands behind it. For a number something must mark its end: a digit, a point or an exponent behind
it would be taken for a part of it (`Delimited`).

1. The digits of a number end where the digits end (`spanDigits_append`) and do not begin with a
   zero unless they are one (`toDigits_ne_zero_cons`), so the digits of a number are read back as
   what they stand for (`scanNumeral_toDigits`).
2. A character is read back from its escaped form (`scanString_escapeChar`), so a string is, one
   character after the other (`scanString_toList`), and so is a key with its colon
   (`scanKey_stringText`).
-/

namespace JoinPaths.Json

/-! ## Blanks and words -/

theorem skipBlanks_of_not_isBlank {c : Char} (rest : List Char) (h : isBlank c = false) :
    skipBlanks (c :: rest) = c :: rest := by
  unfold skipBlanks
  rw [List.dropWhile_cons_of_neg (by rw [h]; exact Bool.false_ne_true)]

theorem skipWord_append (word rest : List Char) : skipWord word (word ++ rest) = .ok rest := by
  induction word with
  | nil => rw [List.nil_append, skipWord]
  | cons c word ih => rw [List.cons_append, skipWord, if_pos rfl, ih]

/-! ## Numbers -/

/-- Whether a number ends in front of this text: the text goes on with nothing that belongs to a
number. -/
def Delimited (rest : List Char) : Prop :=
  ∀ c ∈ rest.head?, c.isDigit = false ∧ c ≠ '.' ∧ c ≠ 'e' ∧ c ≠ 'E'

theorem delimited_nil : Delimited [] := nofun

theorem delimited_cons {c : Char} {rest : List Char}
    (h : c.isDigit = false ∧ c ≠ '.' ∧ c ≠ 'e' ∧ c ≠ 'E') : Delimited (c :: rest) := by
  intro d hd
  obtain rfl := Option.some.inj hd
  exact h

theorem spanDigits_append {digits rest : List Char} (hdigits : ∀ c ∈ digits, c.isDigit = true)
    (hrest : Delimited rest) : spanDigits (digits ++ rest) = (digits, rest) := by
  unfold spanDigits
  rw [List.takeWhile_append_of_pos hdigits, List.dropWhile_append_of_pos hdigits]
  cases rest with
  | nil => rw [List.takeWhile_nil, List.dropWhile_nil, List.append_nil]
  | cons c rest =>
    have hc : ¬ c.isDigit = true := by
      rw [(hrest c rfl).1]
      exact Bool.false_ne_true
    rw [List.takeWhile_cons_of_neg hc, List.dropWhile_cons_of_neg hc, List.append_nil]

/-- The digits of a number begin with a zero only if there is no other digit. -/
theorem toDigits_ne_zero_cons (n : Nat) (c : Char) (digits : List Char) :
    Nat.toDigits 10 n ≠ '0' :: c :: digits := by
  induction n using Nat.strongRecOn generalizing c digits with
  | _ n ih =>
    intro h
    by_cases hn : n < 10
    · rw [Nat.toDigits_of_lt_base hn] at h
      exact absurd (List.cons.inj h).2 nofun
    · -- the last digit is not the first one, so the digits of `n / 10` begin with a zero
      rw [Nat.toDigits_of_base_le (by decide) (Nat.not_lt.1 hn)] at h
      cases hfirst : Nat.toDigits 10 (n / 10) with
      | nil => exact Nat.toDigits_ne_nil hfirst
      | cons d others =>
        rw [hfirst, List.cons_append] at h
        obtain ⟨rfl, h⟩ := List.cons.inj h
        cases others with
        | nil =>
          have hvalue := Nat.ofDigitChars_ten_toDigits (n := n / 10)
          rw [hfirst] at hvalue
          have hzero : n / 10 = 0 := hvalue.symm
          omega
        | cons d' others => exact ih (n / 10) (by omega) d' others hfirst

theorem toDigits_eq_cons (n : Nat) :
    ∃ c digits, Nat.toDigits 10 n = c :: digits ∧ c.isDigit = true := by
  cases hdigits : Nat.toDigits 10 n with
  | nil => exact absurd hdigits Nat.toDigits_ne_nil
  | cons c digits =>
    have hc : c ∈ Nat.toDigits 10 n := by
      rw [hdigits]
      exact List.mem_cons_self
    exact ⟨c, digits, rfl, Nat.isDigit_of_mem_toDigits (by decide) (by decide) hc⟩

theorem scanDigits_append {digits rest : List Char} (hdigits : ∀ c ∈ digits, c.isDigit = true)
    (hne : digits ≠ []) (hrest : Delimited rest) :
    scanDigits (digits ++ rest) = .ok (digits, rest) := by
  unfold scanDigits
  rw [spanDigits_append hdigits hrest]
  cases digits with
  | nil => exact absurd rfl hne
  | cons c digits => rfl

theorem scanWhole_toDigits (n : Nat) {rest : List Char} (hrest : Delimited rest) :
    scanWhole (Nat.toDigits 10 n ++ rest) = .ok (Nat.toDigits 10 n, rest) := by
  have hscan := scanDigits_append (fun _ => Nat.isDigit_of_mem_toDigits (b := 10) (by decide)
    (by decide)) (Nat.toDigits_ne_nil (n := n)) hrest
  unfold scanWhole
  rw [hscan]
  split
  · next h => cases h
  · next h =>
    obtain ⟨h, -⟩ := Prod.mk.inj (Except.ok.inj h)
    exact absurd h (toDigits_ne_zero_cons n _ _)
  · next h => rw [← h]

theorem scanFraction_of_delimited {rest : List Char} (hrest : Delimited rest) :
    scanFraction rest = .ok ([], rest) := by
  unfold scanFraction
  split
  · exact absurd rfl (hrest '.' rfl).2.1
  · rfl

theorem scanExponent_of_delimited {rest : List Char} (hrest : Delimited rest) :
    scanExponent rest = .ok (none, rest) := by
  unfold scanExponent
  cases rest with
  | nil => rfl
  | cons c rest =>
    obtain ⟨-, -, he, hE⟩ := hrest c rfl
    exact if_neg (not_or.2 ⟨he, hE⟩)

theorem scanNumeral_toDigits_eq (negative : Bool) (n : Nat) {rest : List Char}
    (hrest : Delimited rest) :
    scanNumeral negative (Nat.toDigits 10 n ++ rest) =
      (⟨negative, Nat.toDigits 10 n, [], none⟩ : Numeral).value?.elim (.error .malformed)
        fun v => .ok (v, rest) := by
  unfold scanNumeral
  rw [scanWhole_toDigits n hrest]
  dsimp only
  rw [scanFraction_of_delimited hrest]
  dsimp only
  rw [scanExponent_of_delimited hrest]
  dsimp only
  cases (⟨negative, Nat.toDigits 10 n, [], none⟩ : Numeral).value? <;> rfl

/-- The digits of a number without sign are read back as what the numeral stands for. -/
theorem scanNumeral_toDigits (negative : Bool) (n : Nat) {rest : List Char} {v : Json}
    (hrest : Delimited rest)
    (hv : (⟨negative, Nat.toDigits 10 n, [], none⟩ : Numeral).value? = some v) :
    scanNumeral negative (Nat.toDigits 10 n ++ rest) = .ok (v, rest) := by
  rw [scanNumeral_toDigits_eq negative n hrest, hv, Option.elim_some]

theorem value?_of_nat {n : Nat} (h : n < UInt64.size) :
    (⟨false, Nat.toDigits 10 n, [], none⟩ : Numeral).value? = some (.integer n) := by
  unfold Numeral.value?
  dsimp only
  rw [Nat.ofDigitChars_ten_toDigits, if_pos ⟨rfl, rfl, h⟩]
  rfl

theorem value?_of_neg {n : Nat} (hpos : 0 < n) (h : n ≤ UInt64.size / 2) :
    (⟨true, Nat.toDigits 10 n, [], none⟩ : Numeral).value? = some (.integer (-n)) := by
  have hlt : n < UInt64.size := Nat.lt_of_le_of_lt h (by decide)
  unfold Numeral.value?
  dsimp only
  rw [Nat.ofDigitChars_ten_toDigits, if_pos ⟨rfl, rfl, hlt⟩, if_neg (by decide),
    if_pos ⟨hpos, h⟩]

/-! ## Strings -/

theorem hexValue?_digitChar : ∀ d < 16, Text.hexValue? (Nat.digitChar d) = some d := by
  decide

theorem four_le_utf8ByteSize (a b c d : Char) :
    ¬ (String.ofList [a, b, c, d]).utf8ByteSize < 4 := by
  have ha := a.utf8Size_pos
  have hb := b.utf8Size_pos
  have hc := c.utf8Size_pos
  have hd := d.utf8Size_pos
  simp only [String.ofList_cons, String.utf8ByteSize_append, String.utf8ByteSize_singleton]
  omega

theorem scanUnit_digitChars {m : Nat} (h : m < 0x100) (rest : List Char) :
    scanUnit ('0' :: '0' :: Nat.digitChar (m / 16) :: Nat.digitChar (m % 16) :: rest) =
      .ok (m, rest) := by
  have hvalue : ((0 * 16 + 0) * 16 + m / 16) * 16 + m % 16 = m := by omega
  unfold scanUnit
  rw [List.take_succ_cons, List.take_succ_cons, List.take_succ_cons, List.take_succ_cons,
    List.take_zero, if_neg (four_le_utf8ByteSize _ _ _ _)]
  simp only [show Text.hexValue? '0' = some 0 from rfl, hexValue?_digitChar (m / 16) (by omega),
    hexValue?_digitChar (m % 16) (by omega), hvalue]

/-- A character is read back from its escaped form. -/
theorem scanString_escapeChar (read rest : List Char) (c : Char) :
    scanString read (escapeChar c ++ rest) = scanString (c :: read) rest := by
  have hescape : ∀ {text : List Char} {d : Char}, scanEscape text = .ok (d, rest) →
      scanString read ('\\' :: text) = scanString (d :: read) rest := by
    intro text d h
    rw [scanString, h]
  unfold escapeChar
  split
  case h_8 hquote hbackslash _ _ _ _ _ =>
    by_cases hlt : c.toNat < 0x20
    · have hc : c.toNat < 0x100 := Nat.lt_trans hlt (by decide)
      rw [if_pos hlt]
      refine hescape ?_
      -- such a code point is no half of a surrogate pair
      show scanEscape ('u' :: '0' :: '0' :: Nat.digitChar (c.toNat / 16) ::
        Nat.digitChar (c.toNat % 16) :: rest) = _
      rw [scanEscape, scanUnit_digitChars hc rest]
      dsimp only
      rw [if_neg (by omega), if_neg (by omega), Char.ofNat_toNat]
    · rw [if_neg hlt, List.singleton_append, scanString, if_neg hlt]
      · exact hquote
      · exact hbackslash
  all_goals exact hescape rfl

theorem scanString_flatMap (read chars rest : List Char) :
    scanString read (chars.flatMap escapeChar ++ '"' :: rest) =
      .ok (String.ofList (read.reverse ++ chars), rest) := by
  induction chars generalizing read with
  | nil => rw [List.flatMap_nil, List.nil_append, scanString, List.append_nil]
  | cons c chars ih =>
    rw [List.flatMap_cons, List.append_assoc, scanString_escapeChar, ih, List.reverse_cons,
      List.append_assoc, List.singleton_append]

theorem stringText_append (s : String) (rest : List Char) :
    stringText s ++ rest = '"' :: (s.toList.flatMap escapeChar ++ '"' :: rest) := by
  unfold stringText
  rw [List.cons_append, List.append_assoc, List.singleton_append]

theorem scanString_toList (s : String) (rest : List Char) :
    scanString [] (s.toList.flatMap escapeChar ++ '"' :: rest) = .ok (s, rest) := by
  rw [scanString_flatMap, List.reverse_nil, List.nil_append, String.ofList_toList]

/-! ## Keys -/

theorem skipColon_cons (rest : List Char) : skipColon (':' :: rest) = .ok rest := by
  unfold skipColon
  rw [skipBlanks_of_not_isBlank rest (by decide)]
  rfl

theorem scanName_stringText (key : String) (rest : List Char) :
    scanName (stringText key ++ rest) = .ok (key, rest) := by
  unfold scanName
  rw [stringText_append, skipBlanks_of_not_isBlank _ (by decide)]
  exact scanString_toList key rest

theorem scanKey_stringText (key : String) (rest : List Char) :
    scanKey (stringText key ++ ':' :: rest) = .ok (key, rest) := by
  unfold scanKey
  rw [scanName_stringText]
  dsimp only
  rw [skipColon_cons]
  rfl

end JoinPaths.Json
