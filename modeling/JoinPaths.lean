import JoinPaths.Catalog.Listing
import JoinPaths.Catalog.Snapshot
import JoinPaths.Membership.Basic
import JoinPaths.Settings.FromEnvironment
import JoinPaths.Settings.FromJson
import JoinPaths.Settings.FromYaml
import JoinPaths.Proofs.Except
import JoinPaths.Proofs.JoinGraph.Basic
import JoinPaths.Proofs.JoinGraph.Build
import JoinPaths.Proofs.JoinGraph.ExplicitPath
import JoinPaths.Proofs.JoinGraph.Paths
import JoinPaths.Proofs.JoinGraph.SimpleChain
import JoinPaths.Proofs.LinkGrid
import JoinPaths.Proofs.Membership.Agreement
import JoinPaths.Proofs.Membership.Meaning
import JoinPaths.Proofs.Membership.Run
import JoinPaths.Proofs.Membership.Statement
import JoinPaths.Proofs.Membership.Text
import JoinPaths.Proofs.Membership.Verdict
import JoinPaths.Proofs.Path
import JoinPaths.Proofs.Search.Enumeration
import JoinPaths.Proofs.Search.Invariant
import JoinPaths.Proofs.Search.Pruning
import JoinPaths.Proofs.Search.Reach
import JoinPaths.Proofs.Search.Shortlex
import JoinPaths.Proofs.Search.Trail
import JoinPaths.Proofs.Sql.Database
import JoinPaths.Proofs.Sql.Reader
import JoinPaths.Proofs.Sql.Token
import JoinPaths.Proofs.TableList.Lookup
import JoinPaths.Proofs.Text.ByteOrder
import JoinPaths.Proofs.JoinGraph.Reversal
import JoinPaths.Proofs.JoinGraph.Direction
import JoinPaths.Proofs.TableList.Sorting
import JoinPaths.Proofs.JoinGraph.RowOrder
import JoinPaths.Proofs.Membership.Symmetry
import JoinPaths.Proofs.JoinGraph.Part
import JoinPaths.Proofs.Membership.AddedRows
import JoinPaths.Proofs.Membership.Limit
import JoinPaths.Proofs.TableList.Repeat
import JoinPaths.Proofs.JoinGraph.Failure
import JoinPaths.Proofs.Json.Lexeme
import JoinPaths.Proofs.Json.Reader
import JoinPaths.Proofs.Catalog.Snapshot
import JoinPaths.Proofs.Catalog.Listing
import JoinPaths.Proofs.Raw.Grid
import JoinPaths.Proofs.Raw.Search
import JoinPaths.Proofs.Raw.Graph
import JoinPaths.Proofs.Raw.Safety
import JoinPaths.Proofs.JoinGraph.Walk
import JoinPaths.Proofs.Membership.Naming
import JoinPaths.Proofs.Membership.Scope
import JoinPaths.Proofs.Catalog.RoundTrip
import JoinPaths.Proofs.Json.Members
import JoinPaths.Proofs.Json.Composite
import JoinPaths.Proofs.Catalog.Decoding
import JoinPaths.Proofs.Text.Word
import JoinPaths.Proofs.Membership.Flag
import JoinPaths.Proofs.Settings.Numeral
import JoinPaths.Proofs.Settings.DotEnv
import JoinPaths.Proofs.Settings.Environment
import JoinPaths.Proofs.Settings.Agreement
import JoinPaths.Proofs.Raw.Matrix
import JoinPaths.Proofs.Search.Marking
import JoinPaths.Proofs.Search.Turns
import JoinPaths.Proofs.Search.Termination
import JoinPaths.Proofs.Raw.Lookup
