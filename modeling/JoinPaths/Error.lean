import JoinPaths.Json.Mismatch
import JoinPaths.Membership.Flag

/-!
# What can go wrong

Every failure of the library is one of these causes. Building a graph, naming tables, running
statements and reading their answers each have their own; `Error.message` puts them into words.
-/

namespace JoinPaths

/-- Why a catalog could not be listed. -/
inductive ListingFailure where
  /-- The catalog query failed. -/
  | refused (reason : String)
  /-- A row of the answer is no catalog row. -/
  | undecodable (m : Json.Mismatch)

def ListingFailure.message : ListingFailure → String
  | refused reason => reason
  | undecodable m => m.message

/-- Why a list of tables is not a join path. -/
inductive InvalidPath where
  /-- There are fewer than two tables. -/
  | tooShort (count : Nat)
  /-- A table occurs a second time. -/
  | repeated (table : String)
  /-- A table does not lead to the one behind it. -/
  | unlinked (source target : String)
deriving DecidableEq, Repr

def InvalidPath.message : InvalidPath → String
  | tooShort count => "expected at least two tables, got " ++ Nat.repr count
  | repeated table => "table `" ++ table ++ "` appears more than once"
  | unlinked source target => "no foreign key links `" ++ source ++ "` to `" ++ target ++ "`"

/-- A failure of the library. -/
inductive Error where
  /-- A table has several primary keys. -/
  | duplicateTable (table : String)
  /-- A foreign key has an end at a table without primary key. -/
  | unresolvedReference (table referencedTable : String)
  /-- A table is not in the graph. -/
  | unknownTable (table : String)
  /-- A list of tables is not a join path. -/
  | invalidPath (cause : InvalidPath)
  /-- The catalog of a schema could not be listed. -/
  | catalog (schema : String) (cause : ListingFailure)
  /-- A statement could not be run. -/
  | execution (reason : String)
  /-- An answer does not tell whether there is membership. -/
  | malformedAnswer (cause : MalformedFlag)
  /-- A path of one table has nothing to join. -/
  | nothingToJoin (table : String)

def Error.message : Error → String
  | duplicateTable table => "Duplicate primary key rows for table `" ++ table ++ "`"
  | unresolvedReference table referencedTable =>
    "Could not resolve foreign key linkage between `" ++ table ++ "` and `" ++ referencedTable ++
      "`: table is not a base table of the schema"
  | unknownTable table => "Unknown table `" ++ table ++ "`"
  | invalidPath cause => "Invalid join path: " ++ cause.message
  | catalog schema cause =>
    "Failed to list constraints for schema `" ++ schema ++ "`: " ++ cause.message
  | execution reason => "Query execution failed: " ++ reason
  | malformedAnswer cause => "Malformed belongs-to result: " ++ cause.message
  | nothingToJoin table =>
    "Path through `" ++ table ++ "` has no joins; a single-table path cannot be compiled"

end JoinPaths
