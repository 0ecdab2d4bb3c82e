import JoinPaths.Proofs.Settings.DotEnv
import JoinPaths.Proofs.Settings.Numeral
import Mathlib.Algebra.Group.Nat.Defs

/-!
# Settings from variables

Each setting has a text: the variable of the process if it holds a text, else the first value that
the file of variables assigns, else the default (`effectiveText`). What comes of the three texts is
what `SettingsFrom` says. The truth value is looked at first, then the number, and only then whether
the settings are allowed; then every field that is not allowed is reported.

1. Settings are not allowed because of an empty schema name or of a path limit out of its range, or
   of both (`settingsFrom_check`).
2. The texts are read as their values only (`readBoolean?_eq_some_iff`, `readNatural_eq_ok_iff`), so
   an environment comes to what its texts say (`settingsFrom_ofEnvironment`).
3. Once a file is loaded, each variable holds the effective text of its setting
   (`effectiveText_eq`), whatever loader has done it.
-/

namespace JoinPaths.Settings

/-- What comes of the texts of the three settings. -/
inductive SettingsFrom (schemaText directedText limitText : String) :
    Except SettingsError Settings → Prop where
  /-- The truth value is not one. -/
  | notBoolean (htrue : directedText ≠ "true") (hfalse : directedText ≠ "false") :
    SettingsFrom schemaText directedText limitText
      (.error (.notBoolean "SCHEMAGRAPH_DIRECTED" directedText))
  /-- The path limit is no numeral, or that of a number which does not fit in 64 bits. -/
  | notNatural {directed : Bool} {fault : NumeralFault}
      (hdirected : directedText = booleanText directed)
      (hlimit : ∀ n < 2 ^ 64, ¬ IsNumeral limitText n) :
    SettingsFrom schemaText directedText limitText
      (.error (.notNatural "SCHEMAGRAPH_PATH_LIMIT" limitText fault))
  /-- Only the schema name is not allowed. -/
  | emptySchema {directed : Bool} {n : Nat} (hdirected : directedText = booleanText directed)
      (hlimit : IsNumeral limitText n) (hrange : 1 ≤ n ∧ n ≤ 1000) (hschema : schemaText = "") :
    SettingsFrom schemaText directedText limitText (.error (.invalid [.schemaName ""]))
  /-- Only the path limit is not allowed. -/
  | limitOutOfRange {directed : Bool} {n : Nat} (hdirected : directedText = booleanText directed)
      (hlimit : IsNumeral limitText n) (hfits : n < 2 ^ 64) (hrange : ¬ (1 ≤ n ∧ n ≤ 1000))
      (hschema : schemaText ≠ "") :
    SettingsFrom schemaText directedText limitText (.error (.invalid [.pathLimit n]))
  /-- Neither the schema name nor the path limit is allowed. -/
  | bothInvalid {directed : Bool} {n : Nat} (hdirected : directedText = booleanText directed)
      (hlimit : IsNumeral limitText n) (hfits : n < 2 ^ 64) (hrange : ¬ (1 ≤ n ∧ n ≤ 1000))
      (hschema : schemaText = "") :
    SettingsFrom schemaText directedText limitText
      (.error (.invalid [.pathLimit n, .schemaName ""]))
  /-- The settings are allowed. -/
  | settings {directed : Bool} {n : Nat} (hdirected : directedText = booleanText directed)
      (hlimit : IsNumeral limitText n) (hrange : 1 ≤ n ∧ n ≤ 1000) (hschema : schemaText ≠ "") :
    SettingsFrom schemaText directedText limitText (.ok ⟨schemaText, directed, n⟩)

variable {schemaText directedText limitText : String} {directed : Bool} {n : Nat}

theorem violations_eq (s : Settings) :
    violations s =
      (if 1 ≤ s.pathLimit ∧ s.pathLimit ≤ 1000 then [] else [.pathLimit s.pathLimit]) ++
        if s.schemaName = "" then [.schemaName ""] else [] := by
  have hlength : minSchemaNameLength ≤ s.schemaName.length ↔ s.schemaName ≠ "" := by
    rw [minSchemaNameLength, Nat.one_le_iff_ne_zero, ne_eq, String.length_eq_zero_iff]
  unfold violations
  by_cases hschema : s.schemaName = ""
  · rw [if_neg fun h => hlength.1 h hschema, if_pos hschema, hschema]
    rfl
  · rw [if_pos (hlength.2 hschema), if_neg hschema]
    rfl

theorem settingsFrom_check (hdirected : directedText = booleanText directed)
    (hlimit : IsNumeral limitText n) (hfits : n < 2 ^ 64) :
    SettingsFrom schemaText directedText limitText (check ⟨schemaText, directed, n⟩) := by
  unfold check
  rw [violations_eq]
  dsimp only
  by_cases hrange : 1 ≤ n ∧ n ≤ 1000 <;> by_cases hschema : schemaText = ""
  · rw [if_pos hrange, if_pos hschema]
    exact .emptySchema hdirected hlimit hrange hschema
  · rw [if_pos hrange, if_neg hschema]
    exact .settings hdirected hlimit hrange hschema
  · rw [if_neg hrange, if_pos hschema]
    exact .bothInvalid hdirected hlimit hfits hrange hschema
  · rw [if_neg hrange, if_neg hschema]
    exact .limitOutOfRange hdirected hlimit hfits hrange hschema

theorem SettingsFrom.eq_check {outcome : Except SettingsError Settings}
    (h : SettingsFrom schemaText directedText limitText outcome)
    (hdirected : directedText = booleanText directed) (hlimit : IsNumeral limitText n)
    (hfits : n < 2 ^ 64) : outcome = check ⟨schemaText, directed, n⟩ := by
  unfold check
  rw [violations_eq]
  dsimp only
  cases h with
  | notBoolean htrue hfalse =>
    cases directed with
    | true => exact absurd hdirected htrue
    | false => exact absurd hdirected hfalse
  | notNatural _ hnone => exact absurd hlimit (hnone n hfits)
  | emptySchema _ hlimit' hrange hschema =>
    obtain rfl := hlimit'.unique hlimit
    rw [if_pos hrange, if_pos hschema]
    rfl
  | limitOutOfRange _ hlimit' hfits' hrange hschema =>
    obtain rfl := hlimit'.unique hlimit
    rw [if_neg hrange, if_neg hschema]
    rfl
  | bothInvalid _ hlimit' hfits' hrange hschema =>
    obtain rfl := hlimit'.unique hlimit
    rw [if_neg hrange, if_pos hschema]
    rfl
  | settings hdirected' hlimit' hrange hschema =>
    obtain rfl := hlimit'.unique hlimit
    obtain rfl := booleanText_injective (hdirected'.symm.trans hdirected)
    rw [if_pos hrange, if_neg hschema]
    rfl

/-- An environment comes to what the texts of its variables say. -/
theorem settingsFrom_ofEnvironment (env : Environment) :
    SettingsFrom ((env schemaVariable).getD "public") ((env directedVariable).getD "true")
      ((env pathLimitVariable).getD "1") (ofEnvironment env) := by
  unfold ofEnvironment
  dsimp only [standard]
  generalize (env schemaVariable).getD "public" = schemaText
  generalize (env directedVariable).getD "true" = directedText
  generalize (env pathLimitVariable).getD "1" = limitText
  cases hdirected : readBoolean? directedText with
  | none =>
    have hno : ∀ b, directedText ≠ booleanText b := by
      intro b h
      rw [readBoolean?_eq_some_iff.2 h] at hdirected
      cases hdirected
    exact .notBoolean (hno true) (hno false)
  | some directed =>
    have hdirected := readBoolean?_eq_some_iff.1 hdirected
    dsimp only
    cases hlimit : readNatural limitText.toList with
    | error fault =>
      refine .notNatural hdirected fun n hfits hnumeral => ?_
      rw [readNatural_eq_ok_iff.2 ⟨hnumeral, hfits⟩] at hlimit
      cases hlimit
    | ok n =>
      obtain ⟨hnumeral, hfits⟩ := readNatural_eq_ok_iff.1 hlimit
      exact settingsFrom_check hdirected hnumeral hfits

/-! ## Variables and files -/

/-- The text of a setting: what the variable of the process holds if that is UTF-8 text, else the
first value that is assigned to the variable, else the default. -/
def effectiveText (values : String → Option ByteArray) (assignments : List (String × String))
    (variableName default : String) : String :=
  match (values variableName).bind String.fromUTF8? with
  | some text => text
  | none => (assignments.lookup variableName).getD default

theorem effectiveText_eq {values : String → Option ByteArray} {loaded : Environment}
    {assignments : List (String × String)}
    (hgains : (Environment.ofBytes values).Gains assignments loaded)
    (variableName default : String) :
    effectiveText values assignments variableName default =
      (loaded variableName).getD default := by
  unfold effectiveText
  cases htext : (values variableName).bind String.fromUTF8? with
  | some text => rw [hgains.keeps variableName text htext, Option.getD_some]
  | none => rw [hgains.first variableName htext]

/-- Whatever loads the variables of a process with what a file assigns, they come to what the texts
of the three settings say. All that is asked of the loader is that variables with a text keep it and
that the others get what is assigned to them first. -/
theorem ofLoaded_settingsFrom {values : String → Option ByteArray}
    {load : Environment → Except SettingsError Environment} {loaded : Environment}
    {assignments : List (String × String)}
    (hload : load (Environment.ofBytes values) = .ok loaded)
    (hgains : (Environment.ofBytes values).Gains assignments loaded) :
    SettingsFrom (effectiveText values assignments "SCHEMAGRAPH_SCHEMA" "public")
      (effectiveText values assignments "SCHEMAGRAPH_DIRECTED" "true")
      (effectiveText values assignments "SCHEMAGRAPH_PATH_LIMIT" "1")
      (ofLoaded load (Environment.ofBytes values)) := by
  rw [effectiveText_eq hgains, effectiveText_eq hgains, effectiveText_eq hgains, ofLoaded, hload]
  exact settingsFrom_ofEnvironment loaded

/-- Variables of a process: the schema holds no text, and foreign keys are followed both ways. -/
def someVariables (variableName : String) : Option ByteArray :=
  if variableName = "SCHEMAGRAPH_SCHEMA" then some ⟨#[0xff]⟩
  else if variableName = "SCHEMAGRAPH_DIRECTED" then some "false".toUTF8
  else none

/-- A file that assigns a schema twice, and a path limit with a sign and a leading zero. -/
def someFile : String :=
  "# settings\nexport SCHEMAGRAPH_SCHEMA=sales\nSCHEMAGRAPH_SCHEMA=x\n" ++
    "SCHEMAGRAPH_PATH_LIMIT='+07'\nSCHEMAGRAPH_DIRECTED=true\n"

/-- The file counts for the schema and for the path limit, and its first lines for them do. -/
theorem settingsFrom_someFile :
    SettingsFrom "sales" "false" "+07"
        (ofEnvironmentAndFile (Environment.ofBytes someVariables) (some someFile)) ∧
      ofEnvironmentAndFile (Environment.ofBytes someVariables) (some someFile) =
        .ok ⟨"sales", false, 7⟩ := by
  have hlines :
      DotEnv.joinLines .plain [] (DotEnv.splitLines (DotEnv.withoutMark someFile.toList)) =
        [some [], some "export SCHEMAGRAPH_SCHEMA=sales".toList,
          some "SCHEMAGRAPH_SCHEMA=x".toList, some "SCHEMAGRAPH_PATH_LIMIT='+07'".toList,
          some "SCHEMAGRAPH_DIRECTED=true".toList] := by
    decide +kernel
  have hfile : DotEnv.FileAssigns (Environment.ofBytes someVariables) (some someFile)
      [("SCHEMAGRAPH_SCHEMA", "sales"), ("SCHEMAGRAPH_SCHEMA", "x"),
        ("SCHEMAGRAPH_PATH_LIMIT", "+07"), ("SCHEMAGRAPH_DIRECTED", "true")] := by
    unfold DotEnv.FileAssigns
    dsimp only
    rw [hlines]
    exact .skip (by decide +kernel) (.assign (by decide +kernel) (by decide +kernel)
      (.assign (by decide +kernel) (by decide +kernel)
        (.assign (by decide +kernel) (by decide +kernel)
          (.assign (by decide +kernel) (by decide +kernel) .nil))))
  obtain ⟨loaded, hload, hgains⟩ := DotEnv.exists_load_of_fileAssigns hfile
  have h : SettingsFrom "sales" "false" "+07"
      (ofEnvironmentAndFile (Environment.ofBytes someVariables) (some someFile)) :=
    ofLoaded_settingsFrom hload hgains
  have hlimit : IsNumeral "+07" 7 := ⟨['0', '7'], .inr rfl, nofun, List.all_eq_true.1 rfl, rfl⟩
  have hcheck := h.eq_check (show "false" = booleanText false from rfl) hlimit (by decide)
  exact ⟨h, hcheck⟩

end JoinPaths.Settings
