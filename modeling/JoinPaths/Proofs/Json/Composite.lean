import JoinPaths.Proofs.Json.Reader

/-!
# Texts of lists and objects

A list or an object may be put together from texts of its values, however these are written. A text
is refused if the reader fails whatever stands behind it (`Refused`). The digits of a number are
read as what the numeral stands for, and refused if that is too large for a double
(`readsAs_toDigits`, `refused_toDigits`).

A list whose texts are read is read as the list of the values, and an object as the object of the
values, if its keys are different (`parse_arrayText`, `parse_objectText`). If one of the texts is
refused, the whole text is (`parse_arrayText_refused`, `parse_objectText_refused`), by induction on
the texts before it.
-/

namespace JoinPaths.Json

variable {depth n : Nat} {fault : Fault} {text rest t : List Char} {v : Json}
  {texts before after : List (List Char)} {entries : List (String × List Char)}

/-! ## Texts that are read or refused -/

/-- Whether a text is refused, whatever stands behind it. -/
def Refused (depth : Nat) (t : List Char) : Prop :=
  ∀ rest, Delimited rest → scanValue depth (t ++ rest) = .error .malformed

/-- The value at the front of a text, if there is one. -/
def valueOf (depth : Nat) (t : List Char) : Json :=
  match scanValue depth t with
  | .ok s => s.value
  | .error _ => .null

theorem ReadsAs.valueOf_eq (h : ReadsAs depth t v) : valueOf depth t = v := by
  have h := h [] delimited_nil
  rw [List.append_nil] at h
  obtain ⟨le, h⟩ := h
  unfold valueOf
  rw [h]

/-- Whether a text is read as some value. -/
def Readable (depth : Nat) (t : List Char) : Prop :=
  ReadsAs depth t (valueOf depth t)

theorem ReadsAs.readable (h : ReadsAs depth t v) : Readable depth t := by
  unfold Readable
  rw [h.valueOf_eq]
  exact h

/-! ## Numbers -/

/-- The digits of a number as a numeral. -/
def numeralOf (n : Nat) : Numeral :=
  ⟨false, Nat.toDigits 10 n, [], none⟩

theorem value?_numeralOf (h : n < UInt64.size) : (numeralOf n).value? = some (.integer n) :=
  value?_of_nat h

/-- A number that does not fit in 64 bits is a double, or nothing if it is too large for one. -/
theorem value?_numeralOf_of_le (h : UInt64.size ≤ n) :
    (numeralOf n).value? = (numeralOf n).double?.map .double := by
  have hvalue : Nat.ofDigitChars 10 (numeralOf n).whole 0 = n := Nat.ofDigitChars_ten_toDigits
  unfold Numeral.value?
  dsimp only
  rw [hvalue, if_neg fun hfits => Nat.not_lt.2 h hfits.2.2]

theorem readsAs_toDigits (hv : (numeralOf n).value? = some v) :
    ReadsAs depth (Nat.toDigits 10 n) v := by
  intro rest hrest
  unfold numeralOf at hv
  rw [gives_iff, outcome_scanValue_toDigits n hrest, hv, Option.elim_some]

theorem refused_toDigits (hv : (numeralOf n).value? = none) :
    Refused depth (Nat.toDigits 10 n) := by
  intro rest hrest
  unfold numeralOf at hv
  rw [← outcome_eq_error_iff, outcome_scanValue_toDigits n hrest, hv, Option.elim_none]

/-! ## Lists -/

/-- How deep brackets may be nested within those of a whole text. -/
def innerDepth : Nat := 126

/-- The text of a list, from the texts of its values. -/
def arrayText (texts : List (List Char)) : String :=
  String.ofList ('[' :: (List.intercalate [','] texts ++ [']']))

theorem outcome_scanItems_of_error (hv : scanValue depth text = .error fault) :
    outcome (scanItems depth text) = .error fault := by
  rw [outcome_scanItems, hv]
  rfl

/-- The first text that is refused decides. -/
theorem outcome_scanItems_refused (hbefore : ∀ u ∈ before, Readable depth u)
    (ht : Refused depth t) :
    outcome (scanItems depth (List.intercalate [','] (before ++ t :: after) ++ ']' :: rest)) =
      .error .malformed := by
  induction before with
  | nil =>
    have hclose : Delimited (']' :: rest) := delimited_cons (by decide)
    obtain ⟨text, htext, heq⟩ := intercalate_cons_append t after hclose
    rw [List.nil_append, heq]
    exact outcome_scanItems_of_error (ht text htext)
  | cons u before ih =>
    obtain ⟨hu, hbefore⟩ := List.forall_mem_cons.1 hbefore
    have hrest := ih hbefore
    obtain ⟨u', texts, heq⟩ := List.exists_cons_of_ne_nil
      (List.append_ne_nil_of_right_ne_nil before (List.cons_ne_nil t after))
    rw [heq] at hrest
    rw [List.cons_append, heq, intercalate_cons_cons_append,
      outcome_scanItems_comma (hu _ (delimited_cons (by decide))), hrest]
    rfl

theorem parse_arrayText_eq (texts : List (List Char)) :
    parse (arrayText texts) =
      (outcome (scanArray innerDepth (List.intercalate [','] texts ++ [']']))).bind
        fun (items, rest) => (finish rest).map fun _ => .array items := by
  rw [arrayText, parse_eq String.toList_ofList, show maxDepth = innerDepth + 1 from rfl,
    outcome_scanValue_array]
  cases outcome (scanArray innerDepth (List.intercalate [','] texts ++ [']'])) <;> rfl

/-- A list whose texts are read is read as the list of the values. -/
theorem parse_arrayText (h : ∀ t ∈ texts, Readable innerDepth t) :
    parse (arrayText texts) = .ok (.array (texts.map (valueOf innerDepth))) := by
  have hvalues : List.Forall₂ (ReadsAs innerDepth) texts (texts.map (valueOf innerDepth)) :=
    List.forall₂_map_right_iff.2 (List.forall₂_same.2 h)
  rw [parse_arrayText_eq, gives_iff.1 (scanArray_intercalate hvalues)]
  rfl

theorem parse_arrayText_refused {u : List Char} (hu : Readable innerDepth u)
    (hbefore : ∀ u ∈ before, Readable innerDepth u) (ht : Refused innerDepth t) :
    parse (arrayText (u :: before ++ t :: after)) = .error .malformed := by
  have hitems : outcome (scanItems innerDepth
      (List.intercalate [','] (u :: before ++ t :: after) ++ [']'])) = .error .malformed :=
    outcome_scanItems_refused (List.forall_mem_cons.2 ⟨hu, hbefore⟩) ht
  rw [List.cons_append] at hitems ⊢
  rw [parse_arrayText_eq, outcome_scanArray_intercalate hu, hitems]
  rfl

/-! ## Objects -/

/-- The text of an object, from its keys and the texts of its values. -/
def objectText (entries : List (String × List Char)) : String :=
  String.ofList ('\x7b' :: (List.intercalate [','] (entries.map entryText) ++ ['\x7d']))

/-- The members that are read from such a text. -/
def membersOf (depth : Nat) (entries : List (String × List Char)) : List (String × Json) :=
  entries.map fun e => (e.1, valueOf depth e.2)

theorem outcome_scanMembers_of_error {key : String} {afterKey : List Char}
    (hkey : scanKey text = .ok (key, afterKey)) (hv : scanValue depth afterKey = .error fault) :
    outcome (scanMembers depth text) = .error fault := by
  rw [outcome_scanMembers, hkey]
  dsimp only [Except.bind]
  rw [hv]
  rfl

theorem outcome_scanMembers_refused {before after : List (String × List Char)} {key : String}
    (hbefore : ∀ e ∈ before, Readable depth e.2) (ht : Refused depth t) :
    outcome (scanMembers depth (List.intercalate [',']
      ((before ++ (key, t) :: after).map entryText) ++ '\x7d' :: rest)) = .error .malformed := by
  induction before with
  | nil =>
    rw [List.nil_append, List.map_cons]
    have hclose : Delimited ('\x7d' :: rest) := delimited_cons (by decide)
    obtain ⟨text, htext, heq⟩ :=
      intercalate_cons_append (entryText (key, t)) (after.map entryText) hclose
    rw [heq, entryText_append]
    exact outcome_scanMembers_of_error (scanKey_stringText key _) (ht text htext)
  | cons e before ih =>
    obtain ⟨he, hbefore⟩ := List.forall_mem_cons.1 hbefore
    have hrest := ih hbefore
    obtain ⟨e', entries, heq⟩ := List.exists_cons_of_ne_nil
      (List.append_ne_nil_of_right_ne_nil before (List.cons_ne_nil (key, t) after))
    rw [heq] at hrest
    rw [List.cons_append, heq, List.map_cons, List.map_cons, intercalate_cons_cons_append,
      entryText_append, outcome_scanMembers_comma (scanKey_stringText e.1 _)
        (he _ (delimited_cons (by decide))), ← List.map_cons, hrest]
    rfl

theorem parse_objectText_eq (entries : List (String × List Char)) :
    parse (objectText entries) =
      (outcome (scanObject innerDepth
        (List.intercalate [','] (entries.map entryText) ++ ['\x7d']))).bind fun (members, rest) =>
          (finish rest).map fun _ => .object (members.foldl (fun ms m => put ms m.1 m.2) []) := by
  rw [objectText, parse_eq String.toList_ofList, show maxDepth = innerDepth + 1 from rfl,
    outcome_scanValue_object]
  cases outcome (scanObject innerDepth
    (List.intercalate [','] (entries.map entryText) ++ ['\x7d'])) <;> rfl

/-- An object whose texts are read is read as the object of the values. -/
theorem parse_objectText (hkeys : (entries.map Prod.fst).Nodup)
    (h : ∀ e ∈ entries, Readable innerDepth e.2) :
    parse (objectText entries) = .ok (.object (membersOf innerDepth entries)) := by
  have hvalues : List.Forall₂ (EntryReadsAs innerDepth) entries (membersOf innerDepth entries) :=
    List.forall₂_map_right_iff.2 (List.forall₂_same.2 fun e he => ⟨rfl, h e he⟩)
  have hmembers : (membersOf innerDepth entries).map Prod.fst = entries.map Prod.fst := by
    rw [membersOf, List.map_map]
    rfl
  rw [parse_objectText_eq, gives_iff.1 (scanObject_intercalate hvalues)]
  show Except.ok (Json.object ((membersOf innerDepth entries).foldl _ [])) = _
  rw [foldl_put_append [] (hmembers ▸ hkeys), List.nil_append]

theorem parse_objectText_refused {before after : List (String × List Char)} {key : String}
    (hbefore : ∀ e ∈ before, Readable innerDepth e.2) (ht : Refused innerDepth t) :
    parse (objectText (before ++ (key, t) :: after)) = .error .malformed := by
  have hmembers : outcome (scanMembers innerDepth (List.intercalate [',']
      ((before ++ (key, t) :: after).map entryText) ++ ['\x7d'])) = .error .malformed :=
    outcome_scanMembers_refused hbefore ht
  obtain ⟨e, entries, heq⟩ := List.exists_cons_of_ne_nil
    (List.append_ne_nil_of_right_ne_nil before (List.cons_ne_nil (key, t) after))
  rw [heq, List.map_cons] at hmembers
  rw [parse_objectText_eq, heq, List.map_cons, outcome_scanObject_intercalate, hmembers]
  rfl

end JoinPaths.Json
