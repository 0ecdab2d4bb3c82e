import JoinPaths.Settings.Basic
import JoinPaths.Settings.DotEnv
import JoinPaths.Text.Digit

/-!
# Settings from environment variables

Each setting has a variable. A file of variables, if there is one, is loaded first; which lines of it
are read does not matter, unless its loader ends the program. The truth value is read before the
number, and both before the settings are checked.
-/

namespace JoinPaths

/-- The variables of a process, as bytes; those that are no UTF-8 text count as not set. -/
def Environment.ofBytes (values : String → Option ByteArray) : Environment := fun name =>
  (values name).bind String.fromUTF8?

namespace Settings

def schemaVariable : String := "SCHEMAGRAPH_SCHEMA"

def directedVariable : String := "SCHEMAGRAPH_DIRECTED"

def pathLimitVariable : String := "SCHEMAGRAPH_PATH_LIMIT"

/-- The truth value that a text spells. -/
def readBoolean? (s : String) : Option Bool :=
  if s = "true" then some true else if s = "false" then some false else none

/-- Reads digits one after the other; the first that is none, or that makes the number too large,
decides. -/
def readDigits (value : Nat) : List Char → Except NumeralFault Nat
  | [] => .ok value
  | c :: rest =>
    if !c.isDigit then .error .invalidDigit
    else
      let value := value * 10 + Text.digitValue c
      if value < UInt64.size then readDigits value rest else .error .tooLarge

/-- The natural number of 64 bits that a text spells, with a plus sign or without. -/
def readNatural : List Char → Except NumeralFault Nat
  | [] => .error .empty
  | ['+'] => .error .invalidDigit
  | '+' :: digits => readDigits 0 digits
  | digits => readDigits 0 digits

/-- The settings that an environment gives. -/
def ofEnvironment (env : Environment) : Except SettingsError Settings :=
  let schemaName := (env schemaVariable).getD standard.schemaName
  let directedText := (env directedVariable).getD "true"
  let pathLimitText := (env pathLimitVariable).getD "1"
  match readBoolean? directedText with
  | none => .error (.notBoolean directedVariable directedText)
  | some directed =>
    match readNatural pathLimitText.toList with
    | .error fault => .error (.notNatural pathLimitVariable pathLimitText fault)
    | .ok pathLimit => check { schemaName, directed, pathLimit }

/-- The settings that an environment gives once a loader of some file has gone over it. -/
def ofLoaded (load : Environment → Except SettingsError Environment) (env : Environment) :
    Except SettingsError Settings :=
  match load env with
  | .error e => .error e
  | .ok env => ofEnvironment env

/-- The settings that an environment and a file of variables give. -/
def ofEnvironmentAndFile (env : Environment) (file : Option String) :
    Except SettingsError Settings :=
  ofLoaded (DotEnv.load file) env

end Settings

end JoinPaths
