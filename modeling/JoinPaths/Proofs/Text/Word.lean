import JoinPaths.Text.Blank
import Mathlib.Data.List.Forall2
import Mathlib.Data.List.TakeWhile

/-!
# Words with white space around them

A text spells a word if it is the word up to white space around it and up to the case of ASCII
letters (`Spells`). To find the word, white space is cut off at both ends and letters are made lower
case (`foldedWord`). The two do not disturb each other, as no letter is white space in either case.
So texts that spell each other have the same word in them (`foldedWord_eq_of_spells`), and a word of
lower case letters is the one in a text exactly if the text spells it (`spells_iff`).
-/

namespace JoinPaths.Text

variable {c d : Char} {s t before after : List Char}

/-! ## Cutting off white space -/

theorem trim_append_append (hbefore : ∀ c ∈ before, isBlank c = true)
    (hafter : ∀ c ∈ after, isBlank c = true) : trim (before ++ s ++ after) = trim s := by
  unfold trim
  rw [List.append_assoc, List.dropWhile_append_of_pos hbefore, List.dropWhile_append]
  by_cases hs : (s.dropWhile isBlank).isEmpty
  · -- nothing but white space
    rw [if_pos hs, List.dropWhile_eq_nil_iff.2 hafter, List.isEmpty_iff.1 hs]
  · have hreverse : ∀ c ∈ after.reverse, isBlank c = true := by simpa using hafter
    rw [if_neg hs, List.reverse_append, List.dropWhile_append_of_pos hreverse]

theorem exists_eq_append_trim (s : List Char) :
    ∃ before after, s = before ++ trim s ++ after ∧ (∀ c ∈ before, isBlank c = true) ∧
      ∀ c ∈ after, isBlank c = true := by
  have hfront := List.takeWhile_append_dropWhile (p := isBlank) (l := s)
  have hback := List.takeWhile_append_dropWhile (p := isBlank)
    (l := (s.dropWhile isBlank).reverse)
  refine ⟨s.takeWhile isBlank, ((s.dropWhile isBlank).reverse.takeWhile isBlank).reverse, ?_,
    fun c hc => List.mem_takeWhile_imp hc, fun c hc => ?_⟩
  · unfold trim
    rw [List.append_assoc, ← List.reverse_append, hback, List.reverse_reverse, hfront]
  · exact List.mem_takeWhile_imp (List.mem_reverse.1 hc)

theorem dropWhile_isBlank_of_forall (h : ∀ c ∈ s, isBlank c = false) :
    s.dropWhile isBlank = s := by
  cases s with
  | nil => rfl
  | cons c s => exact List.dropWhile_cons_of_neg (by simp [h c])

theorem trim_of_forall (h : ∀ c ∈ s, isBlank c = false) : trim s = s := by
  unfold trim
  rw [dropWhile_isBlank_of_forall h, dropWhile_isBlank_of_forall (by simpa using h),
    List.reverse_reverse]

/-! ## The case of letters -/

/-- Whether two characters are the same up to the case of ASCII letters. -/
def SameLetter (c d : Char) : Prop :=
  c = d ∨ (c.isUpper = true ∧ d.toNat = c.toNat + 32) ∨
    (d.isUpper = true ∧ c.toNat = d.toNat + 32)

theorem isUpper_iff : c.isUpper = true ↔ 65 ≤ c.toNat ∧ c.toNat ≤ 90 := by
  show decide (c.val ≥ 'A'.val ∧ c.val ≤ 'Z'.val) = true ↔ _
  rw [decide_eq_true_iff, ge_iff_le, UInt32.le_iff_toNat_le, UInt32.le_iff_toNat_le]
  rfl

theorem toNat_toLower (c : Char) :
    c.toLower.toNat = if c.isUpper then c.toNat + 32 else c.toNat := by
  have hupper : c.isUpper = decide (c.val ≥ 'A'.val ∧ c.val ≤ 'Z'.val) := rfl
  unfold Char.toLower
  rw [hupper]
  by_cases h : c.val ≥ 'A'.val ∧ c.val ≤ 'Z'.val
  · rw [dif_pos h, if_pos (decide_eq_true h)]
    show (c.val + 32).toNat = c.val.toNat + 32
    have hle : c.val.toNat ≤ 90 := UInt32.le_iff_toNat_le.1 h.2
    have h32 : (32 : UInt32).toNat = 32 := rfl
    rw [UInt32.toNat_add]
    omega
  · rw [dif_neg h, if_neg (by simpa using h)]

theorem toLower_of_not_isUpper (h : ¬ c.isUpper = true) : c.toLower = c := by
  rw [← Char.toNat_inj, toNat_toLower, if_neg h]

theorem sameLetter_iff : SameLetter c d ↔ c.toLower = d.toLower := by
  unfold SameLetter
  rw [← Char.toNat_inj (c := c.toLower), toNat_toLower, toNat_toLower, ← Char.toNat_inj (c := c)]
  simp only [isUpper_iff]
  split_ifs <;> omega

theorem sameLetter_toLower (c : Char) : SameLetter c c.toLower := by
  unfold SameLetter
  by_cases h : c.isUpper = true
  · exact .inr (.inl ⟨h, by rw [toNat_toLower, if_pos h]⟩)
  · exact .inl (toLower_of_not_isUpper h).symm

theorem isBlank_toLower (c : Char) : isBlank c.toLower = isBlank c := by
  by_cases h : c.isUpper = true
  · have hle := isUpper_iff.1 h
    have hlower := toNat_toLower c
    rw [if_pos h] at hlower
    -- neither an upper case letter nor a lower case one is white space
    have hblank : isBlank c = false := by
      simp [isBlank]
      omega
    have hblank' : isBlank c.toLower = false := by
      simp [isBlank]
      omega
    rw [hblank, hblank']
  · rw [toLower_of_not_isUpper h]

theorem map_toLower_trim (s : List Char) :
    (trim s).map Char.toLower = trim (s.map Char.toLower) := by
  have hblank : isBlank ∘ Char.toLower = isBlank := funext isBlank_toLower
  unfold trim
  rw [List.dropWhile_map, hblank, ← List.map_reverse, List.dropWhile_map, hblank,
    List.map_reverse]

theorem map_toLower_eq_iff :
    s.map Char.toLower = t.map Char.toLower ↔ List.Forall₂ SameLetter s t := by
  have hsame : SameLetter = fun c d => c.toLower = d.toLower :=
    funext fun _ => funext fun _ => propext sameLetter_iff
  rw [hsame, ← List.forall₂_eq_eq_eq, List.forall₂_map_left_iff, List.forall₂_map_right_iff]

/-! ## Words -/

/-- Whether a text is a word up to white space around it and the case of ASCII letters. -/
def Spells (s word : String) : Prop :=
  ∃ before letters after, s.toList = before ++ letters ++ after ∧
    (∀ c ∈ before, isBlank c = true) ∧ (∀ c ∈ after, isBlank c = true) ∧
    List.Forall₂ SameLetter letters word.toList

/-- A text without white space around it and with lower case letters. -/
def foldedWord (s : String) : String :=
  String.ofList ((trim s.toList).map Char.toLower)

/-- White space around a text and the case of letters do not matter for the word in it. -/
theorem foldedWord_eq_of_spells {s word : String} (h : Spells s word) :
    foldedWord s = foldedWord word := by
  obtain ⟨before, letters, after, hs, hbefore, hafter, hletters⟩ := h
  unfold foldedWord
  rw [hs, trim_append_append hbefore hafter, map_toLower_trim, map_toLower_trim,
    map_toLower_eq_iff.2 hletters]

/-- A word of lower case letters is the one in a text exactly if the text spells it. -/
theorem spells_iff {s word : String} (hblank : ∀ c ∈ word.toList, isBlank c = false)
    (hlower : word.toList.map Char.toLower = word.toList) :
    Spells s word ↔ foldedWord s = word := by
  constructor
  · intro h
    rw [foldedWord_eq_of_spells h]
    unfold foldedWord
    rw [trim_of_forall hblank, hlower, String.ofList_toList]
  · rintro rfl
    obtain ⟨before, after, hs, hbefore, hafter⟩ := exists_eq_append_trim s.toList
    refine ⟨before, trim s.toList, after, hs, hbefore, hafter, ?_⟩
    unfold foldedWord
    rw [String.toList_ofList, List.forall₂_map_right_iff, List.forall₂_same]
    exact fun c _ => sameLetter_toLower c

end JoinPaths.Text
