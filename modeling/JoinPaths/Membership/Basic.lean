import JoinPaths.JoinGraph.Paths
import JoinPaths.Membership.Query

/-!
# Membership

A row of one table belongs to a row of another if some join path connects them. The candidates are
the paths between the two tables, shortest first; their queries are run one by one until one tells
of membership. A query that fails, or an answer that cannot be read, ends the run. A path may also
be given by naming its tables; then only its query is run.
-/

namespace JoinPaths

/-- The queries of paths, in order; a path that has none decides. -/
def Path.queries (schema : String) : List Path → Except Error (List Query)
  | [] => .ok []
  | p :: paths =>
    (p.query schema).bind fun q => (Path.queries schema paths).map (q :: ·)

/-- What an executor answers to a call: whether there is membership. -/
def Executor.ask (executor : Executor) (earlier : List Call) (call : Call) : Except Error Bool :=
  match executor earlier call with
  | .error reason => .error (.execution reason)
  | .ok rows => (readFlag rows).mapError .malformedAnswer

/-- Runs queries one by one until one tells of membership or fails. -/
def Executor.tryAll (executor : Executor) (sourceKey targetKey : String) (earlier : List Call) :
    List Query → Run Error Bool
  | [] => ⟨[], .ok false⟩
  | q :: queries =>
    let call := q.call sourceKey targetKey
    match executor.ask earlier call with
    | .ok false =>
      let others := executor.tryAll sourceKey targetKey (earlier ++ [call]) queries
      ⟨call :: others.calls, others.result⟩
    | decided => ⟨[call], decided⟩

namespace JoinGraph

/-- The queries of the first `limit` paths between two tables; a path of one table has none. -/
def candidates (g : JoinGraph) (source target : String) (limit : Nat) :
    Except Error (List Query) :=
  (g.findPaths source target limit).bind fun paths =>
    Path.queries g.schema (paths.filter fun p => !p.isTrivial)

/-- Whether a row belongs to another, through one of the first `limit` paths. -/
def belongsTo (g : JoinGraph) (executor : Executor) (source sourceKey target targetKey : String)
    (limit : Nat) : Run Error Bool :=
  match g.candidates source target limit with
  | .error e => ⟨[], .error e⟩
  | .ok queries => executor.tryAll sourceKey targetKey [] queries

/-- Whether a row belongs to another, through the path of the named tables. -/
def belongsToVia (g : JoinGraph) (executor : Executor) (names : List String)
    (sourceKey targetKey : String) : Run Error Bool :=
  match (g.explicitPath names).bind fun p => p.query g.schema with
  | .error e => ⟨[], .error e⟩
  | .ok q =>
    let call := q.call sourceKey targetKey
    ⟨[call], executor.ask [] call⟩

end JoinGraph

end JoinPaths
