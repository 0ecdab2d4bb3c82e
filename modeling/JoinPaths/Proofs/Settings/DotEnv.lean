import JoinPaths.Settings.FromEnvironment

/-!
# What a file of variables assigns

A file assigns values to names, one after the other. All that is asked of a loader of such a file
is what becomes of the variables (`Environment.Gains`): one that has a text keeps it, and any other
gets the first value that is assigned to it.

The loader of this library meets that for a file whose lines can all be read and whose values can
be held (`exists_load_of_fileAssigns`). As a value may refer to variables, each line is read in the
environment that the lines before it have left.
-/

namespace JoinPaths

/-- What becomes of variables to which values are assigned, one after the other. -/
structure Environment.Gains (env : Environment) (assignments : List (String × String))
    (loaded : Environment) : Prop where
  /-- A variable that has a text keeps it. -/
  keeps : ∀ name text, env name = some text → loaded name = some text
  /-- Any other variable gets the first value that is assigned to it, if there is one. -/
  first : ∀ name, env name = none → loaded name = assignments.lookup name

variable {env loaded : Environment} {assignments : List (String × String)}

theorem Environment.gains_nil (env : Environment) : env.Gains [] env :=
  ⟨fun _ _ h => h, fun _ h => h⟩

/-- What is set first stands before all other assignments. -/
theorem Environment.Gains.cons {name value : String}
    (h : (env.setDefault name value).Gains assignments loaded) :
    env.Gains ((name, value) :: assignments) loaded where
  keeps other text hother := by
    refine h.keeps other text ?_
    unfold setDefault
    rw [if_neg, hother]
    rintro ⟨rfl, hnone⟩
    rw [hother] at hnone
    cases hnone
  first other hother := by
    rw [List.lookup_cons]
    by_cases hname : other = name
    · subst hname
      rw [beq_self_eq_true]
      refine h.keeps other value ?_
      rw [setDefault, if_pos ⟨rfl, Option.isNone_iff_eq_none.2 hother⟩]
    · rw [beq_false_of_ne hname]
      refine h.first other ?_
      rw [setDefault, if_neg (fun h => hname h.1), hother]

namespace DotEnv

variable {lines : List (Option (List Char))}

/-- What lines assign, if all of them can be read and all values that are set can be held. -/
inductive Assigns : Environment → List (Option (List Char)) → List (String × String) → Prop where
  | nil {env : Environment} : Assigns env [] []
  /-- The first line is blank or a comment. -/
  | skip {env : Environment} {line : List Char} {lines : List (Option (List Char))}
      {assignments : List (String × String)} (hline : readAssignment env line = some none)
      (hlines : Assigns env lines assignments) : Assigns env (some line :: lines) assignments
  /-- The first line assigns a value to a name. -/
  | assign {env : Environment} {line : List Char} {lines : List (Option (List Char))}
      {assignments : List (String × String)} {name value : String}
      (hline : readAssignment env line = some (some (name, value))) (hvalue : isHoldable value)
      (hlines : Assigns (env.setDefault name value) lines assignments) :
    Assigns env (some line :: lines) ((name, value) :: assignments)

theorem Assigns.exists_loadLines (h : Assigns env lines assignments) :
    ∃ loaded, loadLines env lines = .ok loaded ∧ env.Gains assignments loaded := by
  induction h with
  | nil => exact ⟨_, rfl, Environment.gains_nil _⟩
  | skip hline _ ih =>
    rw [loadLines, hline]
    exact ih
  | assign hline hvalue _ ih =>
    obtain ⟨loaded, hload, hgains⟩ := ih
    refine ⟨loaded, ?_, hgains.cons⟩
    rw [loadLines, hline]
    dsimp only
    rw [hvalue, if_neg (fun h => Bool.false_ne_true h.2), hload]

/-- What a file assigns whose lines can all be read; a missing file assigns nothing. -/
def FileAssigns (env : Environment) (file : Option String)
    (assignments : List (String × String)) : Prop :=
  match file with
  | none => assignments = []
  | some content =>
    Assigns env (joinLines .plain [] (splitLines (withoutMark content.toList))) assignments

/-- A file that can be read gives the variables what it assigns. -/
theorem exists_load_of_fileAssigns {file : Option String} (h : FileAssigns env file assignments) :
    ∃ loaded, load file env = .ok loaded ∧ env.Gains assignments loaded := by
  cases file with
  | none =>
    obtain rfl : assignments = [] := h
    exact ⟨env, rfl, env.gains_nil⟩
  | some content => exact Assigns.exists_loadLines h

end DotEnv

end JoinPaths
