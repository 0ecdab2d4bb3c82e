import JoinPaths.Proofs.Json.Composite
import JoinPaths.Proofs.Json.Members
import JoinPaths.Proofs.Settings.Environment
import JoinPaths.Settings.FromJson
import JoinPaths.Settings.FromYaml

/-!
# Settings from variables and from JSON agree

The same settings may be given by variables of a process, by a JSON object or, if they are the first
ones, by a JSON list. All three come to the same: the settings that are given with the defaults for
the others (`Given.settings`), checked.

1. The members of an object are read one after the other, but if their keys are different, only what
   is found under the names of the settings counts (`Holds.setFields_eq`). A list is read as the
   object of its items under these names (`decodeJson_array`).
2. The variables hold texts that are read back as what they stand for, so an environment comes to
   the check of the settings if the path limit fits in 64 bits, and to none otherwise
   (`Given.SetIn.ofEnvironment_eq`, `Given.SetIn.ofEnvironment_ne_ok`).
3. The text of an object is read as the object of the values that its texts are read as
   (`Given.WrittenIn.holds`, `Given.WrittenIn.parse_eq`). The digits of a path limit that does not
   fit are read as a double, which is no path limit, or the text is refused because they are too
   many for a double (`Given.WrittenIn.parse_error`).
-/

namespace JoinPaths.Settings

open Json (Mismatch lookup? arrayText objectText stringText Readable ReadsAs innerDepth valueOf
  membersOf numeralOf)

variable {members : List (String × Json)} {s : Settings} {schemaName : Option String}
  {directed : Option Bool} {limit : Option Json} {list : List Json}

/-! ## Objects that hold settings -/

/-- Whether an object holds these values under the names of the settings, and nothing under the name
of a setting that has no value here. Its keys are different; other keys may hold anything. -/
structure Holds (members : List (String × Json)) (schemaName directed pathLimit : Option Json) :
    Prop where
  distinct : (members.map Prod.fst).Nodup
  schemaName : lookup? members "schema_name" = schemaName
  directed : lookup? members "directed" = directed
  pathLimit : lookup? members "path_limit" = pathLimit

/-- The path limit that a value stands for, if there is a value. -/
def limitOr (default : Nat) : Option Json → Except Mismatch Nat
  | none => .ok default
  | some v => asNatural v

theorem setFields_cons (key : String) (v : Json) :
    s.setFields ((key, v) :: members) = (s.setField key v).bind fun s => s.setFields members := by
  rw [setFields]
  cases s.setField key v <;> rfl

theorem Holds.setFields_eq
    (h : Holds members (schemaName.map .string) (directed.map .bool) limit) :
    s.setFields members = (limitOr s.pathLimit limit).map fun pathLimit =>
      ⟨schemaName.getD s.schemaName, directed.getD s.directed, pathLimit⟩ := by
  induction members generalizing s schemaName directed limit with
  | nil =>
    obtain ⟨-, hs, hd, rfl⟩ := h
    obtain rfl := Option.map_eq_none_iff.1 hs.symm
    obtain rfl := Option.map_eq_none_iff.1 hd.symm
    rfl
  | cons m members ih =>
    obtain ⟨key, v⟩ := m
    obtain ⟨hdistinct, hs, hd, hl⟩ := h
    obtain ⟨hkey, hkeys⟩ := List.nodup_cons.1 hdistinct
    have hnone := Json.lookup?_eq_none_iff.2 hkey
    rw [Json.lookup?_cons] at hs hd hl
    dsimp only at hs hd hl hnone
    rw [setFields_cons, setField]
    -- a key that was read does not come again
    by_cases hschema : key = "schema_name"
    · subst hschema
      rw [if_pos rfl] at hs
      rw [if_neg (by decide)] at hd hl
      obtain ⟨x, rfl, rfl⟩ := Option.map_eq_some_iff.1 hs.symm
      have hrest : Holds members ((none : Option String).map .string) _ _ :=
        ⟨hkeys, hnone, hd, hl⟩
      exact ih hrest
    rw [if_neg hschema] at hs ⊢
    by_cases hdirected : key = "directed"
    · subst hdirected
      rw [if_pos rfl] at hd
      rw [if_neg (by decide)] at hl
      obtain ⟨x, rfl, rfl⟩ := Option.map_eq_some_iff.1 hd.symm
      have hrest : Holds members _ ((none : Option Bool).map .bool) _ :=
        ⟨hkeys, hs, hnone, hl⟩
      exact ih hrest
    rw [if_neg hdirected] at hd ⊢
    by_cases hlimit : key = "path_limit"
    · subst hlimit
      rw [if_pos rfl] at hl ⊢
      obtain rfl := hl.symm
      cases hn : asNatural v with
      | error e =>
        rw [limitOr, hn]
        rfl
      | ok n =>
        rw [limitOr, hn]
        have hrest : Holds members _ _ none := ⟨hkeys, hs, hd, hnone⟩
        exact ih hrest
    · rw [if_neg hlimit] at hl ⊢
      exact ih ⟨hkeys, hs, hd, hl⟩

/-- An object with settings comes to these and the defaults, if its path limit is one. -/
theorem Holds.decodeJson_eq
    (h : Holds members (schemaName.map .string) (directed.map .bool) limit) :
    decodeJson (.object members) = (limitOr standard.pathLimit limit).map fun pathLimit =>
      ⟨schemaName.getD standard.schemaName, directed.getD standard.directed, pathLimit⟩ :=
  h.setFields_eq

theorem holds_zip (h : list.length ≤ 3) :
    Holds (fieldNames.zip list) list[0]? list[1]? list[2]? := by
  rcases list with _ | ⟨v, _ | ⟨w, _ | ⟨x, _ | ⟨y, list⟩⟩⟩⟩
  · exact ⟨by decide, rfl, rfl, rfl⟩
  · exact ⟨by simp [fieldNames], rfl, rfl, rfl⟩
  · exact ⟨by simp [fieldNames], rfl, rfl, rfl⟩
  · exact ⟨by simp [fieldNames], rfl, rfl, rfl⟩
  · simp only [List.length_cons] at h
    omega

theorem decodeJson_array (hlength : list.length ≤ 3)
    (hschema : list[0]? = schemaName.map .string) (hdirected : list[1]? = directed.map .bool)
    (h : Holds members (schemaName.map .string) (directed.map .bool) list[2]?) :
    decodeJson (.array list) = decodeJson (.object members) := by
  have hzip := holds_zip hlength
  rw [hschema, hdirected] at hzip
  have hsame : standard.setFields (fieldNames.zip list) = decodeJson (.object members) :=
    hzip.setFields_eq.trans h.decodeJson_eq.symm
  show (standard.setFields (fieldNames.zip list)).bind _ = _
  rw [hsame]
  cases decodeJson (.object members) with
  | error e => rfl
  | ok s => exact if_pos hlength

/-! ## Given settings -/

variable {g : Given} {n : Nat} {values : String → Option ByteArray}

/-- The settings that count: those that are given, and the defaults for the others. -/
def Given.settings (g : Given) : Settings :=
  ⟨g.schemaName.getD standard.schemaName, g.directed.getD standard.directed,
    g.pathLimit.getD standard.pathLimit⟩

/-- Whether the path limit fits in 64 bits, if it is given. -/
def Given.Fits (g : Given) : Prop :=
  ∀ n ∈ g.pathLimit, n < 2 ^ 64

/-- Whether the settings that are given are the first ones. -/
def Given.InOrder (g : Given) : Prop :=
  (g.directed.isSome → g.schemaName.isSome) ∧ (g.pathLimit.isSome → g.directed.isSome)

/-! ## Variables that hold settings -/

/-- Whether the variables of a process hold exactly the settings that are given: the schema name as
it is, the truth value as a word and the path limit with its digits. -/
structure Given.SetIn (g : Given) (values : String → Option ByteArray) : Prop where
  schemaName : values "SCHEMAGRAPH_SCHEMA" = g.schemaName.map String.toUTF8
  directed : values "SCHEMAGRAPH_DIRECTED" = g.directed.map fun b => (booleanText b).toUTF8
  pathLimit : values "SCHEMAGRAPH_PATH_LIMIT" = g.pathLimit.map fun n => (Nat.repr n).toUTF8

theorem fromUTF8?_toUTF8 (s : String) : String.fromUTF8? s.toUTF8 = some s :=
  dif_pos s.isValidUTF8

theorem ofBytes_eq {α : Type} {f : α → String} {variableName : String} {given : Option α}
    (h : values variableName = given.map fun a => (f a).toUTF8) :
    Environment.ofBytes values variableName = given.map f := by
  unfold Environment.ofBytes
  rw [h]
  cases given with
  | none => rfl
  | some a => exact fromUTF8?_toUTF8 (f a)

theorem Given.SetIn.settingsFrom (h : g.SetIn values) :
    SettingsFrom g.settings.schemaName (booleanText g.settings.directed)
      (Nat.repr g.settings.pathLimit)
      (ofEnvironmentAndFile (Environment.ofBytes values) none) := by
  have hfrom := settingsFrom_ofEnvironment (Environment.ofBytes values)
  have hschema := (ofBytes_eq (f := id) h.schemaName).trans (Option.map_id_apply)
  rw [schemaVariable, directedVariable, pathLimitVariable, hschema, ofBytes_eq h.directed,
    ofBytes_eq h.pathLimit, show "true" = booleanText true from rfl,
    show "1" = Nat.repr 1 from rfl, Option.getD_map, Option.getD_map] at hfrom
  exact hfrom

theorem Given.SetIn.ofEnvironment_eq (h : g.SetIn values) (hfits : g.Fits) :
    ofEnvironmentAndFile (Environment.ofBytes values) none = g.settings.check := by
  refine h.settingsFrom.eq_check rfl (isNumeral_repr _) ?_
  show g.pathLimit.getD standard.pathLimit < 2 ^ 64
  cases hlimit : g.pathLimit with
  | none => decide
  | some n => exact hfits n hlimit

theorem Given.SetIn.ofEnvironment_ne_ok (h : g.SetIn values) (hn : n ∈ g.pathLimit)
    (hlarge : ¬ n < 2 ^ 64) (s : Settings) :
    ofEnvironmentAndFile (Environment.ofBytes values) none ≠ .ok s := by
  have hfrom := h.settingsFrom
  have hnumeral : IsNumeral (Nat.repr g.settings.pathLimit) n := by
    rw [Given.settings, hn]
    exact isNumeral_repr n
  intro hok
  rw [hok] at hfrom
  cases hfrom with
  | settings _ hlimit hrange _ =>
    obtain rfl := hlimit.unique hnumeral
    omega

/-! ## JSON values that hold settings -/

/-- Whether the members of an object hold exactly the settings that are given, and under other keys
anything. -/
def Given.HeldIn (g : Given) (members : List (String × Json)) : Prop :=
  Holds members (g.schemaName.map .string) (g.directed.map .bool)
    (g.pathLimit.map fun n : Nat => .integer n)

/-- The settings that are given as the items of a list, with a value for the path limit. -/
def Given.itemsWith (g : Given) (limit : Option Json) : List Json :=
  (g.schemaName.map Json.string).toList ++ (g.directed.map Json.bool).toList ++ limit.toList

/-- The settings that are given as the items of a list. -/
def Given.items (g : Given) : List Json :=
  g.itemsWith (g.pathLimit.map fun n : Nat => .integer n)

theorem limitOr_integer (default : Nat) (given : Option Nat) :
    limitOr default (given.map fun n : Nat => .integer n) = .ok (given.getD default) := by
  cases given with
  | none => rfl
  | some n =>
    rw [Option.map_some, limitOr, asNatural, if_pos (Int.natCast_nonneg n)]
    rfl

theorem Given.HeldIn.decodeJson_eq (h : g.HeldIn members) :
    decodeJson (.object members) = .ok g.settings := by
  rw [Holds.decodeJson_eq h, limitOr_integer]
  rfl

theorem Given.InOrder.getElem?_itemsWith (h : g.InOrder)
    (hlimit : limit.isSome = g.pathLimit.isSome) :
    (g.itemsWith limit).length ≤ 3 ∧ (g.itemsWith limit)[0]? = g.schemaName.map .string ∧
      (g.itemsWith limit)[1]? = g.directed.map .bool ∧ (g.itemsWith limit)[2]? = limit := by
  obtain ⟨schemaName, directed, pathLimit⟩ := g
  obtain ⟨hdirected, hpath⟩ := h
  unfold itemsWith
  cases schemaName <;> cases directed <;> cases pathLimit <;> cases limit <;> simp_all

/-- A list of the first settings comes to the same as an object that holds them. -/
theorem Given.InOrder.decodeJson_eq (h : g.InOrder) (hlimit : limit.isSome = g.pathLimit.isSome)
    (hmembers : Holds members (g.schemaName.map .string) (g.directed.map .bool) limit) :
    decodeJson (.array (g.itemsWith limit)) = decodeJson (.object members) := by
  obtain ⟨hlength, hschema, hdirected, hlast⟩ := h.getElem?_itemsWith hlimit
  refine decodeJson_array hlength hschema hdirected ?_
  rw [hlast]
  exact hmembers

/-! ## JSON texts that hold settings -/

variable {entries : List (String × List Char)}

/-- What a JSON text is decoded to, if it is one. -/
def decodeText (text : String) : Option (Except Mismatch Settings) :=
  (Json.parse text).toOption.map decodeJson

/-- Whether the keys and the texts of the members of an object are those of the settings that are
given, a path limit with its digits, and under other keys anything that is a JSON text. -/
structure Given.WrittenIn (g : Given) (entries : List (String × List Char)) : Prop where
  distinct : (entries.map Prod.fst).Nodup
  schemaName : entries.lookup "schema_name" = g.schemaName.map stringText
  directed : entries.lookup "directed" = g.directed.map fun b => (booleanText b).toList
  pathLimit : entries.lookup "path_limit" = g.pathLimit.map (Nat.toDigits 10)
  others : ∀ e ∈ entries, e.1 ∉ fieldNames → ∃ v, ReadsAs innerDepth e.2 v

/-- The texts of the settings that are given. -/
def Given.texts (g : Given) : List (List Char) :=
  (g.schemaName.map stringText).toList ++
    (g.directed.map fun b => (booleanText b).toList).toList ++
      (g.pathLimit.map (Nat.toDigits 10)).toList

/-- The value that the digits of the path limit are read as. -/
def Given.limitValue (g : Given) : Option Json :=
  g.pathLimit.map fun n => valueOf innerDepth (Nat.toDigits 10 n)

theorem readsAs_booleanText (b : Bool) : ReadsAs innerDepth (booleanText b).toList (.bool b) := by
  have htext : (booleanText b).toList = (Json.bool b).text := by cases b <;> rfl
  rw [htext]
  exact Json.readsAs_bool b

theorem lookup?_membersOf (key : String) :
    lookup? (membersOf innerDepth entries) key = (entries.lookup key).map (valueOf innerDepth) := by
  induction entries with
  | nil => rfl
  | cons e entries ih =>
    obtain ⟨k, t⟩ := e
    rw [membersOf, List.map_cons, Json.lookup?_cons, List.lookup_cons]
    by_cases hkey : k = key
    · simp [hkey]
    · rw [if_neg hkey, beq_false_of_ne (Ne.symm hkey)]
      exact ih

theorem Given.WrittenIn.holds (h : g.WrittenIn entries) :
    Holds (membersOf innerDepth entries) (g.schemaName.map .string) (g.directed.map .bool)
      g.limitValue where
  distinct := by
    rw [membersOf, List.map_map]
    exact h.distinct
  schemaName := by
    rw [lookup?_membersOf, h.schemaName, Option.map_map]
    exact Option.map_congr fun s _ => (Json.readsAs_string s).valueOf_eq
  directed := by
    rw [lookup?_membersOf, h.directed, Option.map_map]
    exact Option.map_congr fun b _ => (readsAs_booleanText b).valueOf_eq
  pathLimit := by
    rw [lookup?_membersOf, h.pathLimit, Option.map_map]
    rfl

theorem Given.WrittenIn.readable (h : g.WrittenIn entries) {e : String × List Char}
    (he : e ∈ entries) (hne : e.1 ≠ "path_limit") : Readable innerDepth e.2 := by
  have hlookup := Json.lookup_of_mem h.distinct he
  by_cases hschema : e.1 = "schema_name"
  · rw [hschema, h.schemaName] at hlookup
    obtain ⟨s, -, hs⟩ := Option.map_eq_some_iff.1 hlookup
    rw [← hs]
    exact (Json.readsAs_string s).readable
  by_cases hdirected : e.1 = "directed"
  · rw [hdirected, h.directed] at hlookup
    obtain ⟨b, -, hb⟩ := Option.map_eq_some_iff.1 hlookup
    rw [← hb]
    exact (readsAs_booleanText b).readable
  · obtain ⟨v, hv⟩ := h.others e he (by simp [fieldNames, hschema, hdirected, hne])
    exact hv.readable

theorem Given.WrittenIn.parse_eq (h : g.WrittenIn entries)
    (hlimit : ∀ n ∈ g.pathLimit, Readable innerDepth (Nat.toDigits 10 n)) :
    Json.parse (objectText entries) = .ok (.object (membersOf innerDepth entries)) := by
  refine Json.parse_objectText h.distinct fun e he => ?_
  by_cases hkey : e.1 = "path_limit"
  · have hlookup := Json.lookup_of_mem h.distinct he
    rw [hkey, h.pathLimit] at hlookup
    obtain ⟨n, hn, hdigits⟩ := Option.map_eq_some_iff.1 hlookup
    rw [← hdigits]
    exact hlimit n hn
  · exact h.readable he hkey

/-- If the digits of the path limit are refused, so is the whole object. -/
theorem Given.WrittenIn.parse_error (h : g.WrittenIn entries) (hn : n ∈ g.pathLimit)
    (hlimit : Json.Refused innerDepth (Nat.toDigits 10 n)) :
    Json.parse (objectText entries) = .error .malformed := by
  have hlookup := h.pathLimit
  rw [hn, Option.map_some] at hlookup
  obtain ⟨before, after, rfl, hbefore⟩ := List.lookup_eq_some_iff.1 hlookup
  refine Json.parse_objectText_refused (fun e he => ?_) hlimit
  exact h.readable (List.mem_append_left _ he) (Ne.symm (bne_iff_ne.1 (hbefore e he)))

theorem Given.Fits.limitValue_eq (h : g.Fits) :
    g.limitValue = g.pathLimit.map fun n : Nat => .integer n :=
  Option.map_congr fun n hn =>
    (Json.readsAs_toDigits (Json.value?_numeralOf (h n hn))).valueOf_eq

theorem Given.WrittenIn.decodeText_eq (h : g.WrittenIn entries)
    (hlimit : ∀ n ∈ g.pathLimit, Readable innerDepth (Nat.toDigits 10 n)) :
    decodeText (objectText entries) =
      some (decodeJson (.object (membersOf innerDepth entries))) := by
  rw [decodeText, h.parse_eq hlimit]
  rfl

/-- A text with a path limit that fits is decoded to the settings. -/
theorem Given.WrittenIn.decodeText_of_fits (h : g.WrittenIn entries) (hfits : g.Fits) :
    decodeText (objectText entries) = some (.ok g.settings) := by
  have hheld : g.HeldIn (membersOf innerDepth entries) := by
    have hholds := h.holds
    rw [hfits.limitValue_eq] at hholds
    exact hholds
  have hlimit : ∀ n ∈ g.pathLimit, Readable innerDepth (Nat.toDigits 10 n) := fun n hn =>
    (Json.readsAs_toDigits (Json.value?_numeralOf (hfits n hn))).readable
  rw [h.decodeText_eq hlimit, hheld.decodeJson_eq]

/-- A text with a path limit that does not fit is not decoded to settings. -/
theorem Given.WrittenIn.decodeText_ne_ok (h : g.WrittenIn entries) (hn : n ∈ g.pathLimit)
    (hlarge : ¬ n < 2 ^ 64) (s : Settings) :
    decodeText (objectText entries) ≠ some (.ok s) := by
  have hvalue := Json.value?_numeralOf_of_le (Nat.not_lt.1 hlarge)
  cases hdouble : (numeralOf n).double? with
  | none =>
    -- the number is too large for a double
    rw [hdouble] at hvalue
    rw [decodeText, h.parse_error hn (Json.refused_toDigits hvalue)]
    nofun
  | some x =>
    rw [hdouble] at hvalue
    have hread : ReadsAs innerDepth (Nat.toDigits 10 n) (.double x) :=
      Json.readsAs_toDigits hvalue
    have hlimit : g.limitValue = some (.double x) := by
      rw [Given.limitValue, hn, Option.map_some, hread.valueOf_eq]
    have hholds := h.holds
    rw [hlimit] at hholds
    rw [h.decodeText_eq, hholds.decodeJson_eq]
    · nofun
    · intro m hm
      obtain rfl := Option.mem_unique hm hn
      exact hread.readable

theorem readable_of_mem_texts (hlimit : ∀ n ∈ g.pathLimit, Readable innerDepth (Nat.toDigits 10 n))
    {t : List Char} (ht : t ∈ g.texts) : Readable innerDepth t := by
  simp only [Given.texts, List.mem_append, Option.mem_toList, Option.map_eq_some_iff] at ht
  rcases ht with (⟨s, -, rfl⟩ | ⟨b, -, rfl⟩) | ⟨n, hn, rfl⟩
  · exact (Json.readsAs_string s).readable
  · exact (readsAs_booleanText b).readable
  · exact hlimit n hn

theorem map_valueOf_texts (g : Given) :
    g.texts.map (valueOf innerDepth) = g.itemsWith g.limitValue := by
  have hschema : valueOf innerDepth ∘ stringText = Json.string :=
    funext fun s => (Json.readsAs_string s).valueOf_eq
  have hdirected : (valueOf innerDepth ∘ fun b => (booleanText b).toList) = Json.bool :=
    funext fun b => (readsAs_booleanText b).valueOf_eq
  unfold Given.texts Given.itemsWith Given.limitValue
  rw [List.map_append, List.map_append, ← Option.toList_map, ← Option.toList_map,
    ← Option.toList_map, Option.map_map, Option.map_map, Option.map_map, hschema, hdirected]
  rfl

theorem Given.WrittenIn.decodeText_array_of_readable (h : g.WrittenIn entries)
    (horder : g.InOrder) (hlimit : ∀ n ∈ g.pathLimit, Readable innerDepth (Nat.toDigits 10 n)) :
    decodeText (arrayText g.texts) = decodeText (objectText entries) := by
  have hparse := Json.parse_arrayText fun t => readable_of_mem_texts hlimit
  rw [h.decodeText_eq hlimit, decodeText, hparse, map_valueOf_texts]
  exact congrArg some (horder.decodeJson_eq Option.isSome_map h.holds)

theorem Given.WrittenIn.decodeText_array (h : g.WrittenIn entries) (horder : g.InOrder) :
    decodeText (arrayText g.texts) = decodeText (objectText entries) := by
  by_cases hrefused : ∃ n ∈ g.pathLimit, (numeralOf n).value? = none
  · -- the path limit is given, and so are the settings before it
    obtain ⟨schemaName, directed, pathLimit⟩ := g
    obtain ⟨n, rfl, hvalue⟩ := hrefused
    obtain ⟨b, rfl⟩ := Option.isSome_iff_exists.1 (horder.2 rfl)
    obtain ⟨s, rfl⟩ := Option.isSome_iff_exists.1 (horder.1 rfl)
    have hdigits : Json.Refused innerDepth (Nat.toDigits 10 n) := Json.refused_toDigits hvalue
    have harray : Json.parse (arrayText (stringText s :: [(booleanText b).toList] ++
        Nat.toDigits 10 n :: [])) = .error .malformed :=
      Json.parse_arrayText_refused (Json.readsAs_string s).readable
        (List.forall_mem_singleton.2 (readsAs_booleanText b).readable) hdigits
    have hobject := h.parse_error rfl hdigits
    unfold decodeText
    rw [hobject]
    exact congrArg (fun r => (Except.toOption r).map decodeJson) harray
  · refine h.decodeText_array_of_readable horder fun n hn => ?_
    cases hvalue : (numeralOf n).value? with
    | none => exact absurd ⟨n, hn, hvalue⟩ hrefused
    | some v => exact (Json.readsAs_toDigits hvalue).readable

/-! ## Agreement -/

/-- Settings that a process has as variables, and that a JSON object or a JSON list holds:

* An object that holds the settings, in any order and with anything under other keys, comes to the
  same as the variables if the path limit fits in 64 bits, be that settings or violations.
* So does the text of such an object. If the path limit does not fit, no settings come of it.
* If the settings are the first ones, the list of them comes to the same as the object.
* If the path limit does not fit, no settings come of the variables either. -/
theorem decodeJson_agrees_with_variables (hvalues : g.SetIn values) :
    (∀ members, g.HeldIn members →
      (g.Fits → (decodeJson (.object members)).map check =
        .ok (ofEnvironmentAndFile (Environment.ofBytes values) none)) ∧
      (g.InOrder → decodeJson (.array g.items) = decodeJson (.object members))) ∧
    (∀ entries, g.WrittenIn entries →
      (g.Fits → (decodeText (objectText entries)).map (Except.map check) =
        some (.ok (ofEnvironmentAndFile (Environment.ofBytes values) none))) ∧
      (¬ g.Fits → ∀ s, decodeText (objectText entries) ≠ some (.ok s)) ∧
      (g.InOrder → decodeText (arrayText g.texts) = decodeText (objectText entries))) ∧
    (¬ g.Fits → ∀ s, ofEnvironmentAndFile (Environment.ofBytes values) none ≠ .ok s) := by
  have hlarge : ¬ g.Fits → ∃ n ∈ g.pathLimit, ¬ n < 2 ^ 64 := fun h => by
    simpa [Given.Fits] using h
  refine ⟨fun members hmembers => ⟨fun hfits => ?_, fun horder => ?_⟩,
    fun entries hentries => ⟨fun hfits => ?_, fun hfits => ?_, hentries.decodeText_array⟩,
    fun hfits => ?_⟩
  · rw [hmembers.decodeJson_eq, hvalues.ofEnvironment_eq hfits]
    rfl
  · exact horder.decodeJson_eq Option.isSome_map hmembers
  · rw [hentries.decodeText_of_fits hfits, hvalues.ofEnvironment_eq hfits]
    rfl
  · obtain ⟨n, hn, hn64⟩ := hlarge hfits
    exact hentries.decodeText_ne_ok hn hn64
  · obtain ⟨n, hn, hn64⟩ := hlarge hfits
    exact hvalues.ofEnvironment_ne_ok hn hn64

/-- Settings that are not allowed: an empty schema name and a path limit that is too large. -/
def overLimit : Given :=
  ⟨some "", none, some 1001⟩

/-- Variables that hold these settings. -/
def overLimitVariables (variableName : String) : Option ByteArray :=
  if variableName = "SCHEMAGRAPH_SCHEMA" then some "".toUTF8
  else if variableName = "SCHEMAGRAPH_PATH_LIMIT" then some "1001".toUTF8
  else none

/-- An object that holds them the other way round, with another key between them. -/
def overLimitMembers : List (String × Json) :=
  [("path_limit", .integer 1001), ("comment", .null), ("schema_name", .string "")]

/-- A path limit that does not fit in 64 bits. -/
def tooLarge : Given :=
  ⟨none, none, some (2 ^ 64)⟩

/-- Variables that hold this path limit. -/
def tooLargeVariables (variableName : String) : Option ByteArray :=
  if variableName = "SCHEMAGRAPH_PATH_LIMIT" then some "18446744073709551616".toUTF8 else none

/-- The texts of an object that holds it. -/
def tooLargeEntries : List (String × List Char) :=
  [("comment", "null".toList), ("path_limit", "18446744073709551616".toList)]

/-- An empty schema name and a path limit out of its range are reported by both, and a path limit
that does not fit is refused by both. -/
theorem decodeJson_overLimitMembers :
    (decodeJson (.object overLimitMembers)).map check =
        .ok (ofEnvironmentAndFile (Environment.ofBytes overLimitVariables) none) ∧
      ofEnvironmentAndFile (Environment.ofBytes overLimitVariables) none =
        .error (.invalid [.pathLimit 1001, .schemaName ""]) ∧
      ∀ s, ofEnvironmentAndFile (Environment.ofBytes tooLargeVariables) none ≠ .ok s ∧
        decodeText (objectText tooLargeEntries) ≠ some (.ok s) := by
  have hvalues : overLimit.SetIn overLimitVariables := ⟨rfl, rfl, rfl⟩
  have hmembers : overLimit.HeldIn overLimitMembers := ⟨by decide, rfl, rfl, rfl⟩
  have hfits : overLimit.Fits := by
    rintro n hn
    obtain rfl := Option.some.inj hn
    decide
  have hdigits : Nat.toDigits 10 (2 ^ 64) = "18446744073709551616".toList := by decide +kernel
  have hvalues' : tooLarge.SetIn tooLargeVariables :=
    ⟨rfl, rfl, congrArg (fun digits => some (String.ofList digits).toUTF8) hdigits.symm⟩
  have hentries : tooLarge.WrittenIn tooLargeEntries := by
    refine ⟨by decide, rfl, rfl, congrArg some hdigits.symm, fun e he hkey => ?_⟩
    simp only [tooLargeEntries, List.mem_cons, List.not_mem_nil, or_false] at he
    rcases he with rfl | rfl
    · exact ⟨.null, Json.readsAs_null⟩
    · exact absurd (by decide) hkey
  have hlarge : ¬ tooLarge.Fits := fun h => absurd (h _ rfl) (by decide)
  obtain ⟨-, htexts, hnone⟩ := decodeJson_agrees_with_variables hvalues'
  exact ⟨((decodeJson_agrees_with_variables hvalues).1 _ hmembers).1 hfits,
    hvalues.ofEnvironment_eq hfits,
    fun s => ⟨hnone hlarge s, (htexts _ hentries).2.1 hlarge s⟩⟩

end JoinPaths.Settings
