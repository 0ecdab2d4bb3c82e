import JoinPaths.Json.Basic

/-!
# Executors

The library opens no database. It hands statements to an executor, whose answer may depend on the
statement, on its parameters and on all it has been sent before. What is done with an executor is
a `Run`: the calls that were made, in order, and what came of them.
-/

namespace JoinPaths

/-- A statement that is sent to an executor. -/
structure Call where
  statement : String
  parameters : List String
deriving DecidableEq, Repr

/-- What answers calls: given the earlier calls, oldest first, and a call, it gives the rows of the
answer, or the reason why there are none. -/
def Executor : Type :=
  List Call → Call → Except String (List Json)

/-- The calls that were made and what came of them. -/
structure Run (ε α : Type) where
  calls : List Call
  /-- What came of them. -/
  result : Except ε α

end JoinPaths
