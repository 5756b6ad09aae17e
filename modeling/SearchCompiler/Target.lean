import SearchCompiler.Index.Mapping
import SearchCompiler.Search.Body

/-!
Targets: an index to search, with the settings and the catalog to compile for it, and the questions
that can be put about it. An answer comes with the memory that its look-ups leave behind.
-/

namespace SearchCompiler

structure Target where
  index : String
  settings : Settings := {}
  catalog : Catalog := .standard

inductive Question where
  | field (column : String)
  | fields (overrides : Dict String) (columns : List String)
  | query (clauses : List Clause)
  | assertion (clause : Clause)
  | aggregations (aggregations : List Aggregation)
  | aggregation (aggregation : Aggregation)
  | grouping (grouping : Grouping)
  | sort (keys : List SortKey) (patches : List SortPatch)
  | patched (entries : List Json) (patches : List SortPatch)
  | innerHits (keys : List SortKey) (offset limit : Option UInt64)
  | highlight (highlight : Highlight)
  | request (search : Search)

inductive Answer where
  | text (s : String)
  | texts (results : List (Except Failure String))
  | dataType (type : Option DataType)
  | query (query : Query)
  | assertion (assertion : Assertion)
  | fragment (fragment : Json)
  | members (members : Options)
  | list (entries : List Json)
  | request (request : Request)

def Question.compile (catalog : Catalog) : Question → Compile Answer
  | .field column => do return .text (← Compile.lookUp column)
  | .fields overrides columns => do
    return .texts (← (Compile.lookUpEach columns).overriding overrides)
  | .query clauses => do return .query (← Clause.compileList clauses)
  | .assertion clause => do return .assertion (← clause.assertion none)
  | .aggregations as => do return .members (← Aggregation.compileList catalog as)
  | .aggregation a => do return .fragment (← a.compile catalog)
  | .grouping g => do return .members (← g.compile catalog)
  | .sort keys patches => do return .list (← sortSection keys patches)
  | .patched entries patches => do return .list (← SortPatch.applyAll entries patches)
  | .innerHits keys offset limit => do return .fragment (← innerHitsOf keys offset limit)
  | .highlight h => do return .fragment (h.compile (← read))
  | .request search => do return .request (← search.compile catalog)

namespace Target

def source (t : Target) (provider : Provider) : Source :=
  { index := t.index, provider, trusting := t.settings.trusting }

def ask (t : Target) (provider : Provider) (m : Memory) (q : Question) :
    Except Failure Answer × Memory :=
  (q.compile t.catalog t.settings).run (t.source provider) m

def dataType (t : Target) (provider : Provider) (m : Memory) (path : String) :
    Except Failure (Option DataType) × Memory :=
  (t.source provider).dataType path m

end Target

end SearchCompiler
