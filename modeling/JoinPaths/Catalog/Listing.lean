import JoinPaths.Catalog.Draft
import JoinPaths.Catalog.Query
import JoinPaths.Executor
import JoinPaths.JoinGraph.Basic
import JoinPaths.Settings.Basic

/-!
# Graphs from catalogs

A catalog lists the rows of a schema: a snapshot always the same ones, a live catalog those that an
executor answers to the catalog query. A graph is built from the rows that the catalog lists.
-/

namespace JoinPaths

/-- Where catalog rows come from. -/
inductive Catalog where
  /-- Rows that were taken before, whatever the schema. -/
  | snapshot (rows : List Catalog.Row)
  /-- The catalog of a database behind an executor. -/
  | live (executor : Executor)

namespace Catalog

/-- The call that asks for the rows of a schema. -/
def listingCall (schema : String) : Call :=
  ⟨constraintsQuery, [schema]⟩

/-- The rows of a schema. -/
def list (c : Catalog) (schema : String) : Run ListingFailure (List Row) :=
  match c with
  | snapshot rows => ⟨[], .ok rows⟩
  | live executor =>
    { calls := [listingCall schema]
      result :=
        match executor [] (listingCall schema) with
        | .error reason => .error (.refused reason)
        | .ok items => (Row.ofJsonAll items).mapError .undecodable }

end Catalog

/-- The graph of the rows that a catalog lists for a schema. -/
def JoinGraph.ofCatalog (c : Catalog) (schema : String) (directed : Bool) : Run Error JoinGraph :=
  let listing := c.list schema
  { calls := listing.calls
    result :=
      match listing.result with
      | .error cause => .error (.catalog schema cause)
      | .ok rows => JoinGraph.ofRows rows schema directed }

/-- The graph of the rows that a catalog lists for the schema of some settings. -/
def JoinGraph.ofSettings (c : Catalog) (s : Settings) : Run Error JoinGraph :=
  JoinGraph.ofCatalog c s.schemaName s.directed

end JoinPaths
