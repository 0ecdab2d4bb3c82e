import JoinPaths.Json.Reader
import JoinPaths.Proofs.Json.Lexeme
import Mathlib.Data.List.Forall2

/-!
# Reading back compact texts

A value is *exact* if its text says everything about it: its numbers are integers of 64 bits and the
keys of every object in it are different (`IsExact`). The compact text of an exact value is read
back as that value, whatever stands behind it, if its brackets are not nested deeper than the reader
allows (`IsExact.readsAs`).

1. Without the bound on what it leaves, each reader is an equation in terms of the readers that it
   calls (`outcome_scanValue` to `outcome_scanMembers`). What follows about values, lists and
   objects is calculated with these equations.
2. A list is read item by item and an object member by member, each up to the comma or the bracket
   behind it, whatever texts stand for the items and the members (`scanArray_intercalate`,
   `scanObject_intercalate`).
3. The compact text of a list or an object is such a sequence (`itemsText_eq`, `membersText_eq`), so
   the values are read back by induction.
-/

namespace JoinPaths.Json

variable {ε α : Type} {text rest t : List Char} {depth : Nat} {v : Json} {items : List Json}
  {members : List (String × Json)} {texts : List (List Char)} {entries : List (String × List Char)}

/-! ## Exact values -/

/-- Whether a value has only integers of 64 bits and different keys in every object, and brackets
nested to this depth at most. -/
inductive IsExact : Nat → Json → Prop where
  | null {depth : Nat} : IsExact depth .null
  | bool {depth : Nat} (b : Bool) : IsExact depth (.bool b)
  | integer {depth : Nat} {n : Int} (hmin : -0x8000000000000000 ≤ n)
    (hmax : n < 0x10000000000000000) : IsExact depth (.integer n)
  | string {depth : Nat} (s : String) : IsExact depth (.string s)
  | array {depth : Nat} {items : List Json} (hitems : ∀ v ∈ items, IsExact depth v) :
    IsExact (depth + 1) (.array items)
  | object {depth : Nat} {members : List (String × Json)}
    (hkeys : (members.map Prod.fst).Nodup) (hmembers : ∀ m ∈ members, IsExact depth m.2) :
    IsExact (depth + 1) (.object members)

theorem IsExact.mono (h : IsExact depth v) {depth' : Nat} (hle : depth ≤ depth') :
    IsExact depth' v := by
  induction h generalizing depth' with
  | null => exact .null
  | bool b => exact .bool b
  | integer hmin hmax => exact .integer hmin hmax
  | string s => exact .string s
  | array _ ih =>
    obtain ⟨d, rfl⟩ := Nat.exists_eq_add_of_lt hle
    exact .array fun v hv => ih v hv (by omega)
  | object hkeys _ ih =>
    obtain ⟨d, rfl⟩ := Nat.exists_eq_add_of_lt hle
    exact .object hkeys fun m hm => ih m hm (by omega)

theorem IsExact.object_of_strings (hkeys : (members.map Prod.fst).Nodup)
    (hstrings : ∀ m ∈ members, ∃ s, m.2 = .string s) : IsExact 1 (.object members) := by
  refine .object hkeys fun m hm => ?_
  obtain ⟨s, hs⟩ := hstrings m hm
  rw [hs]
  exact .string s

theorem put_of_not_mem {key : String} (v : Json) (h : key ∉ members.map Prod.fst) :
    put members key v = members ++ [(key, v)] := by
  induction members with
  | nil => rfl
  | cons m members ih =>
    obtain ⟨k, w⟩ := m
    obtain ⟨hk, hrest⟩ := not_or.1 (mt List.mem_cons.2 h)
    rw [put, if_neg (Ne.symm hk), ih hrest, List.cons_append]

theorem foldl_put_append (given : List (String × Json))
    (h : ((given ++ members).map Prod.fst).Nodup) :
    members.foldl (fun ms m => put ms m.1 m.2) given = given ++ members := by
  induction members generalizing given with
  | nil => rw [List.foldl_nil, List.append_nil]
  | cons m members ih =>
    have hm : m.1 ∉ given.map Prod.fst := by
      rw [List.map_append, List.map_cons] at h
      exact fun hmem => (List.nodup_append.1 h).2.2 _ hmem _ List.mem_cons_self rfl
    rw [List.foldl_cons, put_of_not_mem m.2 hm, ih _ (by rwa [List.append_assoc]),
      List.append_assoc]
    rfl

/-! ## What a reader gives -/

/-- Whether a reader gave this value and left this rest. -/
def Gives (r : Except ε (Scan α text)) (a : α) (rest : List Char) : Prop :=
  ∃ le, r = .ok ⟨a, rest, le⟩

/-- What a reader gives and leaves, without the bound on what is left. -/
def outcome (r : Except ε (Scan α text)) : Except ε (α × List Char) :=
  r.map fun s => (s.value, s.rest)

theorem gives_iff {r : Except ε (Scan α text)} {a : α} :
    Gives r a rest ↔ outcome r = .ok (a, rest) := by
  constructor
  · rintro ⟨le, rfl⟩
    rfl
  · intro h
    obtain ⟨⟨a', rest', le⟩, rfl, hs⟩ := map_eq_ok_iff.1 h
    obtain ⟨rfl, rfl⟩ := Prod.mk.inj hs
    exact ⟨le, rfl⟩

theorem outcome_eq_error_iff {r : Except ε (Scan α text)} {e : ε} :
    outcome r = .error e ↔ r = .error e :=
  map_eq_error_iff

theorem skipBlanks_eq_cons {c d : Char} {rest' : List Char} (hc : isBlank c = false)
    (h : skipBlanks (c :: rest) = d :: rest') : d = c ∧ rest' = rest := by
  rw [skipBlanks_of_not_isBlank rest hc] at h
  obtain ⟨rfl, rfl⟩ := List.cons.inj h
  exact ⟨rfl, rfl⟩

/-- What a value comes to whose first character is known. -/
def behindFirst (depth : Nat) (c : Char) (rest : List Char) : Except Fault (Json × List Char) :=
  if c = 'n' then (skipWord ['u', 'l', 'l'] rest).map fun rest => (.null, rest)
  else if c = 't' then (skipWord ['r', 'u', 'e'] rest).map fun rest => (.bool true, rest)
  else if c = 'f' then (skipWord ['a', 'l', 's', 'e'] rest).map fun rest => (.bool false, rest)
  else if c = '"' then (scanString [] rest).map fun (s, rest) => (.string s, rest)
  else if c = '[' then
    match depth with
    | 0 => .error .malformed
    | depth + 1 => (outcome (scanArray depth rest)).map fun (items, rest) => (.array items, rest)
  else if c = '\x7b' then
    match depth with
    | 0 => .error .malformed
    | depth + 1 => (outcome (scanObject depth rest)).map fun (members, rest) =>
      (.object (members.foldl (fun ms m => put ms m.1 m.2) []), rest)
  else if c = '-' then scanNumeral true rest
  else if c.isDigit then scanNumeral false (c :: rest)
  else .error .malformed

theorem outcome_scanWord {word : List Char} (h : rest.length + 1 ≤ text.length) (v : Json) :
    outcome (scanWord word v h) = (skipWord word rest).map fun rest => (v, rest) := by
  unfold scanWord
  split
  · next h =>
    conv_rhs => rw [h]
    rfl
  · next h =>
    conv_rhs => rw [h]
    rfl

theorem outcome_scanValue (depth : Nat) (text : List Char) :
    outcome (scanValue depth text) =
      match skipBlanks text with
      | [] => .error .unfinished
      | c :: rest => behindFirst depth c rest := by
  unfold scanValue
  split
  · next h =>
    conv_rhs => rw [h]
    rfl
  · next c rest h =>
    conv_rhs => rw [h]
    dsimp only
    unfold behindFirst
    -- one case for each character with which a value may begin, in the order of the reader
    by_cases hn : c = 'n'
    · rw [if_pos hn, if_pos hn]
      exact outcome_scanWord _ _
    rw [if_neg hn, if_neg hn]
    by_cases ht : c = 't'
    · rw [if_pos ht, if_pos ht]
      exact outcome_scanWord _ _
    rw [if_neg ht, if_neg ht]
    by_cases hf : c = 'f'
    · rw [if_pos hf, if_pos hf]
      exact outcome_scanWord _ _
    rw [if_neg hf, if_neg hf]
    by_cases hquote : c = '"'
    · rw [if_pos hquote, if_pos hquote]
      split
      all_goals
        next h =>
          conv_rhs => rw [h]
          rfl
    rw [if_neg hquote, if_neg hquote]
    by_cases harray : c = '['
    · rw [if_pos harray, if_pos harray]
      cases depth with
      | zero => rfl
      | succ depth =>
        dsimp only
        cases scanArray depth rest <;> rfl
    rw [if_neg harray, if_neg harray]
    by_cases hobject : c = '\x7b'
    · rw [if_pos hobject, if_pos hobject]
      cases depth with
      | zero => rfl
      | succ depth =>
        dsimp only
        cases scanObject depth rest <;> rfl
    rw [if_neg hobject, if_neg hobject]
    by_cases hminus : c = '-'
    · rw [if_pos hminus, if_pos hminus]
      split
      all_goals
        next h =>
          conv_rhs => rw [h]
          rfl
    rw [if_neg hminus, if_neg hminus]
    by_cases hdigit : c.isDigit
    · rw [if_pos hdigit, if_pos hdigit]
      split
      all_goals
        next h =>
          conv_rhs => rw [h]
          rfl
    · rw [if_neg hdigit, if_neg hdigit]
      rfl

theorem outcome_scanArray (depth : Nat) (text : List Char) :
    outcome (scanArray depth text) =
      match skipBlanks text with
      | ']' :: rest => .ok ([], rest)
      | _ => outcome (scanItems depth text) := by
  unfold scanArray
  split
  · next h =>
    conv_rhs => rw [h]
    rfl
  · next hother =>
    split
    · next h => exact absurd h (hother _)
    · rfl

theorem outcome_scanItems (depth : Nat) (text : List Char) :
    outcome (scanItems depth text) =
      (outcome (scanValue depth text)).bind fun (v, rest) =>
        match skipBlanks rest with
        | [] => .error .unfinished
        | c :: rest =>
          if c = ']' then .ok ([v], rest)
          else if c = ',' then
            (outcome (scanItems depth rest)).map fun (items, rest) => (v :: items, rest)
          else .error .malformed := by
  conv_lhs => unfold scanItems
  cases scanValue depth text with
  | error e => rfl
  | ok v =>
    rw [show outcome (.ok v : Except Fault (Scan Json text)) = .ok (v.value, v.rest) from rfl]
    dsimp only [Except.bind]
    split
    · next h =>
      conv_rhs => rw [h]
      rfl
    · next c rest h =>
      conv_rhs => rw [h]
      dsimp only
      split_ifs
      · rfl
      · cases scanItems depth rest <;> rfl
      · rfl

theorem outcome_scanObject (depth : Nat) (text : List Char) :
    outcome (scanObject depth text) =
      match skipBlanks text with
      | '\x7d' :: rest => .ok ([], rest)
      | _ => outcome (scanMembers depth text) := by
  unfold scanObject
  split
  · next h =>
    conv_rhs => rw [h]
    rfl
  · next hother =>
    split
    · next h => exact absurd h (hother _)
    · rfl

theorem outcome_scanMembers (depth : Nat) (text : List Char) :
    outcome (scanMembers depth text) =
      (scanKey text).bind fun (key, afterKey) =>
        (outcome (scanValue depth afterKey)).bind fun (v, rest) =>
          match skipBlanks rest with
          | [] => .error .unfinished
          | c :: rest =>
            if c = '\x7d' then .ok ([(key, v)], rest)
            else if c = ',' then
              (outcome (scanMembers depth rest)).map fun (members, rest) =>
                ((key, v) :: members, rest)
            else .error .malformed := by
  conv_lhs => unfold scanMembers
  split
  · next h =>
    conv_rhs => rw [h]
    rfl
  · next key afterKey h =>
    conv_rhs => rw [h]
    dsimp only [Except.bind]
    cases scanValue depth afterKey with
    | error e => rfl
    | ok v =>
      rw [show outcome (.ok v : Except Fault (Scan Json afterKey)) = .ok (v.value, v.rest) from rfl]
      dsimp only
      split
      · next h =>
        conv_rhs => rw [h]
        rfl
      · next c rest h =>
        conv_rhs => rw [h]
        dsimp only
        split_ifs
        · rfl
        · cases scanMembers depth rest <;> rfl
        · rfl

/-! ## Texts that are read as values -/

/-- Whether a text is read as a value, whatever stands behind it. -/
def ReadsAs (depth : Nat) (t : List Char) (v : Json) : Prop :=
  ∀ rest, Delimited rest → Gives (scanValue depth (t ++ rest)) v rest

theorem outcome_scanValue_cons {c : Char} (hc : isBlank c = false) :
    outcome (scanValue depth (c :: rest)) = behindFirst depth c rest := by
  rw [outcome_scanValue, skipBlanks_of_not_isBlank rest hc]

/-- No value begins with a closing bracket. -/
theorem scanValue_closing (h : skipBlanks text = ']' :: rest) :
    scanValue depth text = .error .malformed := by
  rw [← outcome_eq_error_iff, outcome_scanValue, h]
  rfl

theorem scanValue_zero_opening {c : Char} (h : skipBlanks text = c :: rest)
    (hc : c = '[' ∨ c = '\x7b') : scanValue 0 text = .error .malformed := by
  rw [← outcome_eq_error_iff, outcome_scanValue, h]
  rcases hc with rfl | rfl <;> rfl

theorem readsAs_word {c : Char} {word : List Char} (hc : isBlank c = false)
    (h : ∀ rest, behindFirst depth c rest = (skipWord word rest).map fun rest => (v, rest)) :
    ReadsAs depth (c :: word) v := by
  intro rest _
  rw [List.cons_append, gives_iff, outcome_scanValue_cons hc, h, skipWord_append]
  rfl

theorem readsAs_null : ReadsAs depth Json.null.text .null :=
  readsAs_word (by decide) fun _ => rfl

theorem readsAs_bool (b : Bool) : ReadsAs depth (Json.bool b).text (.bool b) := by
  cases b with
  | true => exact readsAs_word (by decide) fun _ => rfl
  | false => exact readsAs_word (by decide) fun _ => rfl

theorem readsAs_string (s : String) : ReadsAs depth (stringText s) (.string s) := by
  intro rest _
  rw [stringText_append, gives_iff, outcome_scanValue_cons (by decide)]
  unfold behindFirst
  rw [if_neg (by decide), if_neg (by decide), if_neg (by decide), if_pos rfl, scanString_toList]
  rfl

/-! ## Numbers -/

theorem outcome_scanValue_minus (rest : List Char) :
    outcome (scanValue depth ('-' :: rest)) = scanNumeral true rest := by
  rw [outcome_scanValue_cons (by decide)]
  rfl

theorem outcome_scanValue_digit {c : Char} (hc : c.isDigit = true) (rest : List Char) :
    outcome (scanValue depth (c :: rest)) = scanNumeral false (c :: rest) := by
  have hne : ∀ d : Char, d.isDigit = false → c ≠ d := by
    rintro d hd rfl
    rw [hc] at hd
    cases hd
  have hblank : isBlank c = false := by
    simp only [isBlank, Bool.or_eq_false_iff, beq_eq_false_iff_ne]
    exact ⟨⟨⟨hne _ (by decide), hne _ (by decide)⟩, hne _ (by decide)⟩, hne _ (by decide)⟩
  rw [outcome_scanValue_cons hblank]
  unfold behindFirst
  rw [if_neg (hne _ (by decide)), if_neg (hne _ (by decide)), if_neg (hne _ (by decide)),
    if_neg (hne _ (by decide)), if_neg (hne _ (by decide)), if_neg (hne _ (by decide)),
    if_neg (hne _ (by decide)), if_pos hc]

/-- The digits of a number come to what the numeral stands for, or are refused. -/
theorem outcome_scanValue_toDigits (n : Nat) (hrest : Delimited rest) :
    outcome (scanValue depth (Nat.toDigits 10 n ++ rest)) =
      (⟨false, Nat.toDigits 10 n, [], none⟩ : Numeral).value?.elim (.error .malformed)
        fun v => .ok (v, rest) := by
  rw [← scanNumeral_toDigits_eq false n hrest]
  obtain ⟨c, digits, hdigits, hc⟩ := toDigits_eq_cons n
  rw [hdigits]
  exact outcome_scanValue_digit hc _

theorem readsAs_integer {n : Int} (hmin : -0x8000000000000000 ≤ n)
    (hmax : n < 0x10000000000000000) : ReadsAs depth (Json.integer n).text (.integer n) := by
  intro rest hrest
  show Gives (scanValue depth (integerText n ++ rest)) (.integer n) rest
  rw [gives_iff]
  unfold integerText
  by_cases hneg : n < 0
  · have hvalue := value?_of_neg (n := n.natAbs) (by omega) (by
      show n.natAbs ≤ 0x8000000000000000
      omega)
    rw [show -(n.natAbs : Int) = n by omega] at hvalue
    rw [if_pos hneg, List.cons_append, outcome_scanValue_minus]
    exact scanNumeral_toDigits true n.natAbs hrest hvalue
  · have hvalue := value?_of_nat (n := n.natAbs) (by
      show n.natAbs < 0x10000000000000000
      omega)
    rw [show (n.natAbs : Int) = n by omega] at hvalue
    rw [if_neg hneg, outcome_scanValue_toDigits _ hrest, hvalue, Option.elim_some]

/-! ## Texts after one another -/

theorem intercalate_cons_cons_append (t t' : List Char) (texts : List (List Char)) :
    List.intercalate [','] (t :: t' :: texts) ++ rest =
      t ++ ',' :: (List.intercalate [','] (t' :: texts) ++ rest) := by
  rw [List.intercalate_cons_cons, List.append_assoc, List.append_assoc, List.singleton_append]

/-- Behind the first of some texts stands what may stand behind a number. -/
theorem intercalate_cons_append (t : List Char) (texts : List (List Char)) {c : Char}
    (hc : Delimited (c :: rest)) :
    ∃ after, Delimited after ∧ List.intercalate [','] (t :: texts) ++ c :: rest = t ++ after := by
  cases texts with
  | nil => exact ⟨_, hc, by rw [List.intercalate_singleton]⟩
  | cons t' texts =>
    exact ⟨_, delimited_cons (by decide), intercalate_cons_cons_append t t' texts⟩

/-! ## Lists -/

theorem outcome_scanValue_array (rest : List Char) :
    outcome (scanValue (depth + 1) ('[' :: rest)) =
      (outcome (scanArray depth rest)).map fun (items, rest) => (.array items, rest) := by
  rw [outcome_scanValue_cons (by decide)]
  rfl

theorem scanItems_last (hv : Gives (scanValue depth text) v (']' :: rest)) :
    Gives (scanItems depth text) [v] rest := by
  rw [gives_iff, outcome_scanItems, gives_iff.1 hv]
  rfl

theorem outcome_scanItems_comma (hv : Gives (scanValue depth text) v (',' :: rest)) :
    outcome (scanItems depth text) =
      (outcome (scanItems depth rest)).map fun (items, rest) => (v :: items, rest) := by
  rw [outcome_scanItems, gives_iff.1 hv]
  rfl

theorem scanItems_intercalate (h : List.Forall₂ (ReadsAs depth) texts items) (hne : texts ≠ []) :
    Gives (scanItems depth (List.intercalate [','] texts ++ ']' :: rest)) items rest := by
  induction h with
  | nil => exact absurd rfl hne
  | cons ht hrest ih =>
    cases hrest with
    | nil =>
      rw [List.intercalate_singleton]
      exact scanItems_last (ht _ (delimited_cons (by decide)))
    | cons ht' hrest =>
      rw [intercalate_cons_cons_append, gives_iff,
        outcome_scanItems_comma (ht _ (delimited_cons (by decide))),
        gives_iff.1 (ih (List.cons_ne_nil _ _))]
      rfl

theorem outcome_scanArray_of_gives (hv : Gives (scanValue depth text) v rest) :
    outcome (scanArray depth text) = outcome (scanItems depth text) := by
  rw [outcome_scanArray]
  split
  · next hclose =>
    obtain ⟨le, hv⟩ := hv
    rw [scanValue_closing hclose] at hv
    cases hv
  · rfl

theorem outcome_scanArray_intercalate (ht : ReadsAs depth t v) (texts : List (List Char)) :
    outcome (scanArray depth (List.intercalate [','] (t :: texts) ++ ']' :: rest)) =
      outcome (scanItems depth (List.intercalate [','] (t :: texts) ++ ']' :: rest)) := by
  have hclose : Delimited (']' :: rest) := delimited_cons (by decide)
  obtain ⟨after, hafter, heq⟩ := intercalate_cons_append t texts hclose
  rw [heq]
  exact outcome_scanArray_of_gives (ht after hafter)

/-- A list whose texts are read is read as the list of the values. -/
theorem scanArray_intercalate (h : List.Forall₂ (ReadsAs depth) texts items) :
    Gives (scanArray depth (List.intercalate [','] texts ++ ']' :: rest)) items rest := by
  rw [gives_iff]
  cases h with
  | nil =>
    rw [outcome_scanArray]
    rfl
  | cons ht hrest =>
    rw [outcome_scanArray_intercalate ht, ← gives_iff]
    exact scanItems_intercalate (.cons ht hrest) (List.cons_ne_nil _ _)

/-! ## Objects -/

/-- The text of a member, from its key and the text of its value. -/
def entryText (e : String × List Char) : List Char :=
  stringText e.1 ++ ':' :: e.2

/-- Whether a key and a text are those of a member. -/
def EntryReadsAs (depth : Nat) (e : String × List Char) (m : String × Json) : Prop :=
  e.1 = m.1 ∧ ReadsAs depth e.2 m.2

theorem entryText_append (e : String × List Char) :
    entryText e ++ rest = stringText e.1 ++ ':' :: (e.2 ++ rest) := by
  rw [entryText, List.append_assoc, List.cons_append]

theorem outcome_scanValue_object (rest : List Char) :
    outcome (scanValue (depth + 1) ('\x7b' :: rest)) =
      (outcome (scanObject depth rest)).map fun (members, rest) =>
        (.object (members.foldl (fun ms m => put ms m.1 m.2) []), rest) := by
  rw [outcome_scanValue_cons (by decide)]
  rfl

theorem scanValue_object {rest' : List Char} (h : Gives (scanObject depth rest) members rest')
    (hkeys : (members.map Prod.fst).Nodup) :
    Gives (scanValue (depth + 1) ('\x7b' :: rest)) (.object members) rest' := by
  rw [gives_iff, outcome_scanValue_object, gives_iff.1 h, Except.map]
  dsimp only
  rw [foldl_put_append [] hkeys, List.nil_append]

theorem scanMembers_last {key : String} {afterKey : List Char}
    (hkey : scanKey text = .ok (key, afterKey))
    (hv : Gives (scanValue depth afterKey) v ('\x7d' :: rest)) :
    Gives (scanMembers depth text) [(key, v)] rest := by
  rw [gives_iff, outcome_scanMembers, hkey]
  dsimp only [Except.bind]
  rw [gives_iff.1 hv]
  rfl

theorem outcome_scanMembers_comma {key : String} {afterKey : List Char}
    (hkey : scanKey text = .ok (key, afterKey))
    (hv : Gives (scanValue depth afterKey) v (',' :: rest)) :
    outcome (scanMembers depth text) =
      (outcome (scanMembers depth rest)).map fun (members, rest) =>
        ((key, v) :: members, rest) := by
  rw [outcome_scanMembers, hkey]
  dsimp only [Except.bind]
  rw [gives_iff.1 hv]
  rfl

theorem scanMembers_intercalate (h : List.Forall₂ (EntryReadsAs depth) entries members)
    (hne : entries ≠ []) :
    Gives (scanMembers depth (List.intercalate [','] (entries.map entryText) ++ '\x7d' :: rest))
      members rest := by
  induction h with
  | nil => exact absurd rfl hne
  | @cons e m _ _ he hrest ih =>
    obtain ⟨key, t⟩ := e
    obtain ⟨_, v⟩ := m
    obtain ⟨rfl, ht⟩ := he
    cases hrest with
    | nil =>
      rw [List.map_singleton, List.intercalate_singleton, entryText_append]
      exact scanMembers_last (scanKey_stringText key _) (ht _ (delimited_cons (by decide)))
    | cons he' hrest =>
      rw [List.map_cons, List.map_cons, intercalate_cons_cons_append, entryText_append, gives_iff,
        outcome_scanMembers_comma (scanKey_stringText key _) (ht _ (delimited_cons (by decide))),
        ← List.map_cons, gives_iff.1 (ih (List.cons_ne_nil _ _))]
      rfl

theorem outcome_scanObject_intercalate (e : String × List Char) (texts : List (List Char)) :
    outcome (scanObject depth (List.intercalate [','] (entryText e :: texts) ++ '\x7d' :: rest)) =
      outcome (scanMembers depth
        (List.intercalate [','] (entryText e :: texts) ++ '\x7d' :: rest)) := by
  have hclose : Delimited ('\x7d' :: rest) := delimited_cons (by decide)
  obtain ⟨after, -, heq⟩ := intercalate_cons_append (entryText e) texts hclose
  rw [heq, entryText_append, stringText_append, outcome_scanObject,
    skipBlanks_of_not_isBlank _ (by decide)]
  rfl

/-- An object whose texts are read is read as the object of the values. -/
theorem scanObject_intercalate (h : List.Forall₂ (EntryReadsAs depth) entries members) :
    Gives (scanObject depth (List.intercalate [','] (entries.map entryText) ++ '\x7d' :: rest))
      members rest := by
  rw [gives_iff]
  cases h with
  | nil =>
    rw [outcome_scanObject]
    rfl
  | cons he hrest =>
    rw [List.map_cons, outcome_scanObject_intercalate, ← List.map_cons, ← gives_iff]
    exact scanMembers_intercalate (.cons he hrest) (List.cons_ne_nil _ _)

/-! ## Compact texts -/

theorem itemsRestText_cons (v : Json) (items : List Json) :
    itemsRestText (v :: items) = ',' :: itemsText (v :: items) := by
  rw [itemsRestText, itemsText, List.cons_append]

theorem delimited_itemsRestText (items : List Json) (rest : List Char) :
    Delimited (itemsRestText items ++ ']' :: rest) := by
  cases items with
  | nil => exact delimited_cons (by decide)
  | cons v items =>
    rw [itemsRestText_cons]
    exact delimited_cons (by decide)

theorem itemsText_eq (items : List Json) :
    itemsText items = List.intercalate [','] (items.map Json.text) := by
  induction items with
  | nil => rfl
  | cons v items ih =>
    cases items with
    | nil =>
      rw [itemsText, itemsRestText, List.append_nil, List.map_singleton,
        List.intercalate_singleton]
    | cons w items =>
      rw [itemsText, itemsRestText_cons, ih, List.map_cons, List.map_cons, List.map_cons,
        List.intercalate_cons_cons, List.append_assoc, List.singleton_append]

theorem membersText_cons (key : String) (v : Json) (members : List (String × Json)) :
    membersText ((key, v) :: members) =
      stringText key ++ ':' :: (v.text ++ membersRestText members) := by
  rw [membersText, List.append_assoc, List.cons_append]

theorem membersRestText_cons (m : String × Json) (members : List (String × Json)) :
    membersRestText (m :: members) = ',' :: membersText (m :: members) := by
  obtain ⟨key, v⟩ := m
  rw [membersRestText, membersText, List.cons_append, List.cons_append]

theorem delimited_membersRestText (members : List (String × Json)) (rest : List Char) :
    Delimited (membersRestText members ++ '\x7d' :: rest) := by
  cases members with
  | nil => exact delimited_cons (by decide)
  | cons m members =>
    rw [membersRestText_cons]
    exact delimited_cons (by decide)

theorem membersText_eq (members : List (String × Json)) :
    membersText members =
      List.intercalate [','] ((members.map fun m => (m.1, m.2.text)).map entryText) := by
  induction members with
  | nil => rfl
  | cons m members ih =>
    obtain ⟨key, v⟩ := m
    cases members with
    | nil =>
      rw [membersText_cons, membersRestText, List.append_nil, List.map_singleton,
        List.map_singleton, List.intercalate_singleton, entryText]
    | cons m' members =>
      rw [membersText_cons, membersRestText_cons, ih]
      simp only [List.map_cons]
      rw [List.intercalate_cons_cons, List.append_assoc, List.singleton_append, entryText_append]

theorem text_array_append (items : List Json) (rest : List Char) :
    (Json.array items).text ++ rest = '[' :: (itemsText items ++ ']' :: rest) := by
  rw [text, List.cons_append, List.cons_append, List.append_assoc, List.singleton_append]

theorem text_object_append (members : List (String × Json)) (rest : List Char) :
    (Json.object members).text ++ rest = '\x7b' :: (membersText members ++ '\x7d' :: rest) := by
  rw [text, List.cons_append, List.cons_append, List.append_assoc, List.singleton_append]

/-- The text of an exact value is read back. -/
theorem IsExact.readsAs (h : IsExact depth v) : ReadsAs depth v.text v := by
  induction h with
  | null => exact readsAs_null
  | bool b => exact readsAs_bool b
  | integer hmin hmax => exact readsAs_integer hmin hmax
  | string s => exact readsAs_string s
  | array _ ih =>
    intro rest _
    have hitems := List.forall₂_map_left_iff.2 (List.forall₂_same.2 ih)
    rw [text_array_append, itemsText_eq, gives_iff, outcome_scanValue_array,
      gives_iff.1 (scanArray_intercalate hitems)]
    rfl
  | @object _ members hkeys _ ih =>
    intro rest _
    have hmembers : List.Forall₂ (EntryReadsAs _) (members.map fun m => (m.1, m.2.text)) members :=
      List.forall₂_map_left_iff.2 (List.forall₂_same.2 fun m hm => ⟨rfl, ih m hm⟩)
    rw [text_object_append, membersText_eq]
    exact scanValue_object (scanObject_intercalate hmembers) hkeys

/-! ## Whole texts -/

theorem parse_eq {s : String} (htext : s.toList = text) :
    parse s = (outcome (scanValue maxDepth text)).bind fun (v, rest) =>
      (finish rest).map fun _ => v := by
  subst htext
  unfold parse
  cases scanValue maxDepth s.toList <;> rfl

theorem parse_compact (h : IsExact maxDepth v) : parse (compact v) = .ok v := by
  have hscan := h.readsAs [] delimited_nil
  rw [List.append_nil, gives_iff] at hscan
  rw [compact, parse_eq String.toList_ofList, hscan]
  rfl

end JoinPaths.Json
