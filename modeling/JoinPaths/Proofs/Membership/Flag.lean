import JoinPaths.Membership.Flag
import JoinPaths.Proofs.Json.Members
import JoinPaths.Proofs.Text.Word

/-!
# What an answer tells

The first row of an answer decides, and of that row only the value in the column of the flag.
`Json.Tells` says which values tell of membership and which tell that there is none, and `FlagOf`
what the flag of an answer is, or why it has none.

1. A text tells what the word means that it spells, and no word means both
   (`wordTruth?_eq_some_iff`).
2. So a value tells what is read from it (`truth?_eq_some_iff`), and an answer has the flag that is
   read from it (`readFlag_eq_iff_flagOf`).
-/

namespace JoinPaths

variable {v : Json} {b : Bool} {members : List (String × Json)}

/-! ## Values -/

/-- Whether a value tells of membership, or that there is none. -/
inductive Json.Tells : Json → Bool → Prop where
  | bool (b : Bool) : Tells (.bool b) b
  | zero : Tells (.integer 0) false
  | nonzero {n : Int} (h : n ≠ 0) : Tells (.integer n) true
  | double (x : Float) : Tells (.double x) (x != 0.0)
  | yes {s word : String} (hword : word ∈ ["t", "true", "1", "y", "yes"])
      (h : Text.Spells s word) : Tells (.string s) true
  | no {s word : String} (hword : word ∈ ["f", "false", "0", "n", "no"])
      (h : Text.Spells s word) : Tells (.string s) false

/-- The words for a truth value. -/
def wordsFor (b : Bool) : List String :=
  if b then trueWords else falseWords

theorem tells_string_iff {s : String} :
    Json.Tells (.string s) b ↔ ∃ word ∈ wordsFor b, Text.Spells s word := by
  constructor
  · intro h
    cases h with
    | yes hword h => exact ⟨_, hword, h⟩
    | no hword h => exact ⟨_, hword, h⟩
  · rintro ⟨word, hword, h⟩
    cases b with
    | true => exact .yes hword h
    | false => exact .no hword h

theorem spells_iff_of_mem_wordsFor {s word : String} (hword : word ∈ wordsFor b) :
    Text.Spells s word ↔ Text.foldedWord s = word := by
  have hwords : ∀ b, ∀ word ∈ wordsFor b, word.toList.any Text.isBlank = false ∧
      word.toList.map Char.toLower = word.toList := by decide
  obtain ⟨hblank, hlower⟩ := hwords b word hword
  have hblank : ∀ c ∈ word.toList, Text.isBlank c = false := by simpa using hblank
  exact Text.spells_iff hblank hlower

theorem wordTruth?_eq (s : String) :
    wordTruth? s =
      if Text.foldedWord s ∈ trueWords then some true
      else if Text.foldedWord s ∈ falseWords then some false
      else none := rfl

theorem wordTruth?_eq_some_iff {s : String} :
    wordTruth? s = some b ↔ ∃ word ∈ wordsFor b, Text.Spells s word := by
  have hmem : (∃ word ∈ wordsFor b, Text.Spells s word) ↔ Text.foldedWord s ∈ wordsFor b := by
    constructor
    · rintro ⟨word, hword, h⟩
      rwa [(spells_iff_of_mem_wordsFor hword).1 h]
    · exact fun h => ⟨_, h, (spells_iff_of_mem_wordsFor h).2 rfl⟩
  have hboth : ∀ word ∈ trueWords, word ∉ falseWords := by decide
  rw [hmem, wordTruth?_eq]
  cases b with
  | true => split_ifs <;> simp_all [wordsFor]
  | false => split_ifs with htrue hfalse <;> simp_all [wordsFor]

theorem truth?_eq_some_iff : v.truth? = some b ↔ v.Tells b := by
  cases v with
  | string s => exact wordTruth?_eq_some_iff.trans tells_string_iff.symm
  | bool b' =>
    constructor
    · intro h
      obtain rfl := Option.some.inj h
      exact .bool b'
    · rintro ⟨⟩
      rfl
  | integer n =>
    constructor
    · intro h
      obtain rfl := Option.some.inj h
      by_cases hn : n = 0
      · subst hn
        exact .zero
      · rw [bne_iff_ne.2 hn]
        exact .nonzero hn
    · intro h
      cases h with
      | zero => rfl
      | nonzero hn => exact congrArg some (bne_iff_ne.2 hn)
  | double x =>
    constructor
    · intro h
      obtain rfl := Option.some.inj h
      exact .double x
    · rintro ⟨⟩
      rfl
  | null | array _ | object _ =>
    constructor
    · intro h
      cases h
    · intro h
      cases h

theorem truth?_eq_none_iff : v.truth? = none ↔ ∀ b, ¬ v.Tells b := by
  rw [Option.eq_none_iff_forall_ne_some]
  exact forall_congr' fun b => not_congr truth?_eq_some_iff

/-! ## Answers -/

/-- What the flag of an answer is, or why the answer has none. -/
inductive FlagOf : List Json → Except MalformedFlag Bool → Prop where
  /-- No row tells that there is no membership. -/
  | noRow : FlagOf [] (.ok false)
  /-- The first row is no object. -/
  | notAnObject {row : Json} {later : List Json} (h : ∀ members, row ≠ .object members) :
    FlagOf (row :: later) (.error (.notAnObject row))
  /-- The first row does not have the column. -/
  | missingColumn {members : List (String × Json)} {later : List Json}
      (h : ∀ v, ("belongs", v) ∉ members) :
    FlagOf (.object members :: later) (.error .missingColumn)
  /-- The value in the column tells. -/
  | told {members : List (String × Json)} {later : List Json} {v : Json} {b : Bool}
      (hmem : ("belongs", v) ∈ members) (h : v.Tells b) :
    FlagOf (.object members :: later) (.ok b)
  /-- The value in the column does not tell. -/
  | untold {members : List (String × Json)} {later : List Json} {v : Json}
      (hmem : ("belongs", v) ∈ members) (h : ∀ b, ¬ v.Tells b) :
    FlagOf (.object members :: later) (.error (.notBooleanLike v))

/-- The value in the column decides. -/
theorem readFlag_of_mem (hkeys : (members.map Prod.fst).Nodup) (hmem : (flagColumn, v) ∈ members)
    (later : List Json) :
    readFlag (.object members :: later) =
      match v.truth? with
      | some b => .ok b
      | none => .error (.notBooleanLike v) := by
  have hfound := (Json.lookup?_eq_some_iff hkeys).2 hmem
  cases htruth : v.truth? with
  | none => simp only [readFlag, hfound, htruth]
  | some b => simp only [readFlag, hfound, htruth]

theorem readFlag_of_not_mem (h : ∀ v, (flagColumn, v) ∉ members) (later : List Json) :
    readFlag (.object members :: later) = .error .missingColumn := by
  have hnone : Json.lookup? members flagColumn = none := by
    rw [Json.lookup?_eq_none_iff, List.mem_map]
    rintro ⟨⟨key, v⟩, hmem, rfl⟩
    exact h v hmem
  rw [readFlag, hnone]

theorem flagOf_readFlag {rows : List Json} (hkeys : ∀ row ∈ rows.head?, row.HasDistinctKeys) :
    FlagOf rows (readFlag rows) := by
  cases rows with
  | nil => exact .noRow
  | cons row later =>
    cases row with
    | object members =>
      have hkeys : (members.map Prod.fst).Nodup := hkeys _ rfl
      by_cases hcolumn : ∃ v, (flagColumn, v) ∈ members
      · obtain ⟨v, hmem⟩ := hcolumn
        rw [readFlag_of_mem hkeys hmem]
        cases htruth : v.truth? with
        | some b => exact .told hmem (truth?_eq_some_iff.1 htruth)
        | none => exact .untold hmem (truth?_eq_none_iff.1 htruth)
      · rw [readFlag_of_not_mem (not_exists.1 hcolumn)]
        exact .missingColumn (not_exists.1 hcolumn)
    | null | bool _ | integer _ | double _ | string _ | array _ => exact .notAnObject nofun

theorem readFlag_of_flagOf {rows : List Json} {outcome : Except MalformedFlag Bool}
    (hkeys : ∀ row ∈ rows.head?, row.HasDistinctKeys) (h : FlagOf rows outcome) :
    readFlag rows = outcome := by
  cases h with
  | noRow => rfl
  | @notAnObject row later h =>
    cases row with
    | object members => exact absurd rfl (h members)
    | null | bool _ | integer _ | double _ | string _ | array _ => rfl
  | missingColumn h => exact readFlag_of_not_mem h _
  | told hmem h => rw [readFlag_of_mem (hkeys _ rfl) hmem, truth?_eq_some_iff.2 h]
  | untold hmem h => rw [readFlag_of_mem (hkeys _ rfl) hmem, truth?_eq_none_iff.2 h]

theorem toOption_readFlag_of_mem (hkeys : (members.map Prod.fst).Nodup)
    (hmem : (flagColumn, v) ∈ members) (later : List Json) :
    (readFlag (.object members :: later)).toOption = v.truth? := by
  rw [readFlag_of_mem hkeys hmem]
  cases v.truth? with
  | none => rfl
  | some b => rfl

/-- An answer has the flag that is read from it, and nothing but the value in the column of its
first row decides on it: neither the rows behind it nor other members, in any order. Of a text
neither white space around it nor the case of its letters does. -/
theorem readFlag_eq_iff_flagOf :
    (∀ rows : List Json, (∀ row ∈ rows.head?, row.HasDistinctKeys) →
        ∀ outcome, readFlag rows = outcome ↔ FlagOf rows outcome) ∧
      (∀ (row : Json) (later later' : List Json),
        readFlag (row :: later) = readFlag (row :: later')) ∧
      ∀ (members members' : List (String × Json)) (later later' : List Json),
        (members.map Prod.fst).Nodup → (members'.map Prod.fst).Nodup →
        (∀ v, (flagColumn, v) ∈ members → (flagColumn, v) ∈ members' →
          readFlag (.object members' :: later') = readFlag (.object members :: later)) ∧
        ∀ s t, Text.Spells t s → (flagColumn, .string s) ∈ members →
          (flagColumn, .string t) ∈ members' →
          (readFlag (.object members' :: later')).toOption =
            (readFlag (.object members :: later)).toOption := by
  refine ⟨fun rows hkeys outcome => ⟨?_, readFlag_of_flagOf hkeys⟩, ?_, ?_⟩
  · rintro rfl
    exact flagOf_readFlag hkeys
  · intro row later later'
    cases row with
    | object members => rfl
    | null | bool _ | integer _ | double _ | string _ | array _ => rfl
  · intro members members' later later' hkeys hkeys'
    constructor
    · intro v hmem hmem'
      rw [readFlag_of_mem hkeys hmem, readFlag_of_mem hkeys' hmem']
    · intro s t hspells hs ht
      rw [toOption_readFlag_of_mem hkeys hs, toOption_readFlag_of_mem hkeys' ht]
      show wordTruth? t = wordTruth? s
      rw [wordTruth?_eq, wordTruth?_eq, Text.foldedWord_eq_of_spells hspells]

/-- A text in the column tells of membership with white space around it and in upper case, whatever
else is in the answer. A row that is a list is refused. -/
theorem flagOf_paddedText :
    readFlag [.object [("belongs", .string "\u00a0YES\u3000"), ("note", .null)], .integer 7] =
        .ok true ∧
      (readFlag [.object [("note", .array []), ("belongs", .string "\u00a0YES\u3000")]]).toOption =
        (readFlag [.object [("belongs", .string "yeS")], .null]).toOption ∧
      readFlag [.array [.string "yes"]] = .error (.notAnObject (.array [.string "yes"])) := by
  obtain ⟨hflag, -, hmembers⟩ := readFlag_eq_iff_flagOf
  have hspells : ∀ word : String, word.toList.map Char.toLower = ['y', 'e', 's'] →
      Text.Spells "\u00a0YES\u3000" word := fun word hword =>
    ⟨['\u00a0'], ['Y', 'E', 'S'], ['\u3000'], rfl, List.forall_mem_singleton.2 rfl,
      List.forall_mem_singleton.2 rfl, Text.map_toLower_eq_iff.1 hword.symm⟩
  have hyes : "yes" ∈ ["t", "true", "1", "y", "yes"] := by decide
  refine ⟨(hflag _ ?_ _).2 (.told List.mem_cons_self (.yes hyes (hspells "yes" rfl))), ?_,
    (hflag _ ?_ _).2 (.notAnObject nofun)⟩
  · intro row hrow
    obtain rfl := Option.some.inj hrow
    show List.Nodup ["belongs", "note"]
    decide
  · exact (hmembers _ _ _ _ (by decide) (by decide)).2 _ _ (hspells "yeS" rfl)
      List.mem_cons_self (List.mem_cons_of_mem _ List.mem_cons_self)
  · intro row hrow
    obtain rfl := Option.some.inj hrow
    trivial

end JoinPaths
