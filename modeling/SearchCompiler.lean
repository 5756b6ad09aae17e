import SearchCompiler.Aggregation.Rows
import SearchCompiler.Json.Printer
import SearchCompiler.Json.Reader
import SearchCompiler.Workspace
import SearchCompiler.Proofs.Lookup.Evaluation
import SearchCompiler.Proofs.Query.Runs
import SearchCompiler.Proofs.Clause.Leaves
import SearchCompiler.Proofs.Clause.Shape
import SearchCompiler.Proofs.Clause.Meaning
import SearchCompiler.Proofs.Clause.Parallel
import SearchCompiler.Proofs.Aggregation.Parallel
import SearchCompiler.Proofs.Search.Trusting
import SearchCompiler.Proofs.Lookup.Memory
import SearchCompiler.Proofs.Workspace.History
import SearchCompiler.Proofs.Workspace.Snapshots
import SearchCompiler.Proofs.Lookup.Fetching
import SearchCompiler.Proofs.Search.Fetching
import SearchCompiler.Proofs.Clause.Tree
import SearchCompiler.Proofs.Lookup.Faults
import SearchCompiler.Proofs.Query.Parts
import SearchCompiler.Proofs.Clause.Relationship
import SearchCompiler.Proofs.Aggregation.Levels
import SearchCompiler.Proofs.Clause.Scoping
import SearchCompiler.Proofs.Aggregation.Rows
import SearchCompiler.Proofs.Search.Options
import SearchCompiler.Proofs.Aggregation.Forest
import SearchCompiler.Proofs.Clause.Duality
import SearchCompiler.Proofs.Json.Search
import SearchCompiler.Proofs.Clause.Arguments
import SearchCompiler.Proofs.Aggregation.Naming
import SearchCompiler.Proofs.Json.Kinds
import SearchCompiler.Proofs.Search.Sections
import SearchCompiler.Proofs.Query.Wildcard
import SearchCompiler.Proofs.Lookup.Resolution
import SearchCompiler.Proofs.Search.Conjunction
import SearchCompiler.Proofs.Index.Flattening
import SearchCompiler.Proofs.Index.Envelopes
import SearchCompiler.Proofs.Sorting.Merged
import SearchCompiler.Proofs.Aggregation.Nesting
import SearchCompiler.Proofs.Aggregation.Chains
import SearchCompiler.Proofs.Clause.InnerHits
import SearchCompiler.Proofs.Fragment.Forms
import SearchCompiler.Proofs.Aggregation.Carried
import SearchCompiler.Proofs.Date.Instants
import SearchCompiler.Proofs.Lookup.Settled
import SearchCompiler.Proofs.Aggregation.Registration
