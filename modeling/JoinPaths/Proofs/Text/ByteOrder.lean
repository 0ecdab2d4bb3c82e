import Mathlib.Data.List.Lex

/-!
# The order of texts by their bytes

Texts are compared character by character, by code point. `byteLt_iff` says that this is the order
of their UTF-8 bytes: of two characters the one with the smaller code point has the smaller
encoding, and they differ in a byte before either encoding ends (`utf8EncodeChar_append_lt`).
-/

namespace JoinPaths.Text

/-- The bytes of a text in UTF-8. -/
def bytes (s : String) : List UInt8 :=
  s.toByteArray.data.toList

/-- The order of texts by their bytes. -/
def ByteLt (a b : String) : Prop :=
  bytes a < bytes b

instance (a b : String) : Decidable (ByteLt a b) :=
  inferInstanceAs (Decidable (bytes a < bytes b))

theorem bytes_eq_flatMap (s : String) : bytes s = s.toList.flatMap String.utf8EncodeChar := by
  unfold bytes
  rw [← String.utf8Encode_toList, List.utf8Encode, List.toList_data_toByteArray]

theorem toNat_val_lt (c : Char) : c.val.toNat < 0x110000 := by
  rcases c.valid with h | ⟨-, h⟩
  · exact Nat.lt_trans h (by decide)
  · exact h

/-- A smaller character has smaller bytes, whatever follows it. -/
theorem utf8EncodeChar_append_lt {c d : Char} (h : c < d) (t u : List UInt8) :
    String.utf8EncodeChar c ++ t < String.utf8EncodeChar d ++ u := by
  have hlt : c.val.toNat < d.val.toNat := h
  have hd := toNat_val_lt d
  unfold String.utf8EncodeChar
  dsimp only
  -- one case for each pair of lengths; the leading bytes of different lengths differ
  split_ifs <;>
    simp (disch := omega) only [List.cons_append, List.nil_append, List.cons_lt_cons_iff,
      UInt8.lt_iff_toNat_lt, ← UInt8.toNat_inj, UInt8.toNat_ofNat', Nat.mod_eq_of_lt] <;>
    omega

theorem flatMap_utf8EncodeChar_lt {l m : List Char} (h : l < m) :
    l.flatMap String.utf8EncodeChar < m.flatMap String.utf8EncodeChar := by
  induction h with
  | nil =>
    rename_i c m
    rw [List.flatMap_nil, List.flatMap_cons]
    obtain ⟨b, bs, hc⟩ := List.exists_cons_of_ne_nil (String.utf8EncodeChar_ne_nil (c := c))
    rw [hc]
    exact List.nil_lt_cons _ _
  | rel h => exact utf8EncodeChar_append_lt h _ _
  | cons _ ih =>
    rw [List.flatMap_cons, List.flatMap_cons]
    exact List.Lex.append_left _ ih _

/-- The order of texts is the order of their bytes. -/
theorem byteLt_iff {a b : String} : ByteLt a b ↔ a < b := by
  have key : ∀ {x y : String}, x < y → ByteLt x y := by
    intro x y h
    unfold ByteLt
    rw [bytes_eq_flatMap, bytes_eq_flatMap]
    exact flatMap_utf8EncodeChar_lt h
  constructor
  · intro h
    by_contra hab
    by_cases hba : b < a
    · exact List.lt_asymm h (key hba)
    · obtain rfl : a = b := String.le_antisymm hba hab
      exact List.lt_irrefl _ h
  · exact key

instance : Std.Asymm ByteLt :=
  ⟨fun _ _ hab hba => String.lt_asymm (byteLt_iff.1 hab) (byteLt_iff.1 hba)⟩

end JoinPaths.Text
