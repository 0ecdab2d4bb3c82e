/-!
# Settings

Which schema a join graph is made of, whether its foreign keys are followed in one direction only,
and how many paths are tried for a membership question. Settings can be read from environment
variables, from JSON and from YAML; whatever is not given has its default. Read settings are checked
before they are used, and every field that does not pass is reported.
-/

namespace JoinPaths

/-- The settings of a join graph. -/
structure Settings where
  /-- The schema whose tables form the graph. -/
  schemaName : String
  /-- Whether foreign keys are followed only from their table to the one they refer to. -/
  directed : Bool
  /-- How many paths are tried at most. -/
  pathLimit : Nat
deriving DecidableEq, Repr

namespace Settings

/-- The settings that count when nothing is given. -/
def standard : Settings :=
  ⟨"public", true, 1⟩

def minPathLimit : Nat := 1

def maxPathLimit : Nat := 1000

/-- The shortest schema name, in characters. -/
def minSchemaNameLength : Nat := 1

/-- A field that does not pass, with its value. -/
inductive Violation where
  /-- The path limit is not in its range. -/
  | pathLimit (value : Nat)
  /-- The schema name is too short. -/
  | schemaName (value : String)
deriving DecidableEq, Repr

def Violation.message : Violation → String
  | pathLimit _ =>
    "Path limit must be between " ++ Nat.repr minPathLimit ++ " and " ++ Nat.repr maxPathLimit
  | schemaName _ => "Schema name cannot be empty"

/-- The fields that do not pass, in the order of their names. -/
def violations (s : Settings) : List Violation :=
  (if minPathLimit ≤ s.pathLimit ∧ s.pathLimit ≤ maxPathLimit then []
    else [.pathLimit s.pathLimit]) ++
  (if minSchemaNameLength ≤ s.schemaName.length then [] else [.schemaName s.schemaName])

end Settings

/-- Why a text is no natural number of 64 bits. -/
inductive NumeralFault where
  | empty
  | invalidDigit
  /-- The number does not fit in 64 bits. -/
  | tooLarge
deriving DecidableEq, Repr

def NumeralFault.message : NumeralFault → String
  | empty => "cannot parse integer from empty string"
  | invalidDigit => "invalid digit found in string"
  | tooLarge => "number too large to fit in target type"

/-- Why a file could not be read as text. -/
inductive FileFault where
  | missing
  /-- The file does not hold UTF-8 text. -/
  | notText
deriving DecidableEq, Repr

def FileFault.message : FileFault → String
  | missing => "No such file or directory (os error 2)"
  | notText => "stream did not contain valid UTF-8"

/-- Why there are no settings. -/
inductive SettingsError where
  /-- A variable should hold a truth value. -/
  | notBoolean (variableName value : String)
  /-- A variable should hold a natural number. -/
  | notNatural (variableName value : String) (fault : NumeralFault)
  /-- A YAML file could not be read. -/
  | unreadableFile (fault : FileFault)
  /-- A YAML text does not hold settings. -/
  | unreadableYaml (content : String)
  /-- A file assigns a value that no variable can hold; the program ends there. -/
  | unholdable (variableName value : String)
  /-- Some fields do not pass. -/
  | invalid (violations : List Settings.Violation)
deriving DecidableEq, Repr

/-- Settings that pass, or what is wrong with them. -/
def Settings.check (s : Settings) : Except SettingsError Settings :=
  if s.violations.isEmpty then .ok s else .error (.invalid s.violations)

/-- A text that could not be read as a setting: where it stands, the text, and why. A YAML text is
given without a reason. -/
structure UnreadableText where
  /-- Where the text stands. -/
  field : String
  value : String
  /-- Why it could not be read. -/
  reason : Option String

/-- The text that could not be read, if that is why there are no settings. -/
def SettingsError.unreadableText? : SettingsError → Option UnreadableText
  | notBoolean variableName value =>
    some ⟨variableName, value, some "provided string was not `true` or `false`"⟩
  | notNatural variableName value fault => some ⟨variableName, value, some fault.message⟩
  | unreadableFile fault => some ⟨"yaml_file", "file read failed", some fault.message⟩
  | unreadableYaml content => some ⟨"yaml_content", content, none⟩
  | unholdable _ _ | invalid _ => none

/-- An unreadable text in words. -/
def UnreadableText.message? (t : UnreadableText) : Option String :=
  t.reason.map fun reason =>
    "Parse error for " ++ t.field ++ ": " ++ t.value ++ " - " ++ reason

end JoinPaths
