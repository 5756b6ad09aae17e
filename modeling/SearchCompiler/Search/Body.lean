import SearchCompiler.Aggregation.Levels
import SearchCompiler.Search.Basic

/-!
The body of the request for a search. Its sections are compiled in a fixed order, so the first
failing section decides the failure; sections with nothing in them are left out of the body.
-/

namespace SearchCompiler

structure Request where
  query : Query
  postFilter : Option Query := none
  aggregations : Options := []
  sort : List Json := []
  highlight : Option Json := none
  start : Option UInt64 := none
  size : Option UInt64 := none
  source : Option (List String) := none

namespace Request

def toJson (r : Request) : Json :=
  .ofMembers [
    ("query", some r.query.toJson),
    ("post_filter", r.postFilter.map Query.toJson),
    ("aggs", if r.aggregations.isEmpty then none else some (.object r.aggregations)),
    ("sort", if r.sort.isEmpty then none else some (.array r.sort)),
    ("highlight", r.highlight),
    ("from", r.start.map .ofUInt64),
    ("size", r.size.map .ofUInt64),
    ("_source", r.source.map .ofStrings)]

end Request

namespace Search

def filtered (query filter : Query) : Query :=
  .bool {
    must := if query.isMatchAll then [] else [query.toJson]
    filter := [filter.toJson] }

def querySection (scored filters : List Clause) : Compile Query := do
  let query ← Clause.compileList scored
  if filters.isEmpty then return query
  return filtered query (← Clause.compileList filters)

def postFilterSection (clauses : List Clause) : Compile (Option Query) := do
  if clauses.isEmpty then return none
  return some (← Clause.compileList clauses)

def addLevels (aggregations : Options) : Options → Compile Options
  | [] => return aggregations
  | (key, level) :: rest => do
    if Entries.hasKey key aggregations then
      Compile.fail (.descriptor (.groupingCollision key))
    else addLevels (Entries.insert key level aggregations) rest

def aggregationSection (catalog : Catalog) (as : List Aggregation) (grouping : Option Grouping) :
    Compile Options := do
  let aggregations ← Aggregation.compileList catalog as
  match grouping with
  | none => return aggregations
  | some g => addLevels aggregations (← g.compile catalog)

def page (s : Search) : Option UInt64 × Option UInt64 :=
  if s.grouping.isSome then (none, some 0) else (s.offset, s.limit)

def compile (s : Search) (catalog : Catalog) : Compile Request :=
  Compile.overriding s.overrides do
    let query ← querySection s.scored s.filters
    let postFilter ← postFilterSection s.postFilters
    let aggregations ← aggregationSection catalog s.aggregations s.grouping
    let sort ← sortSection s.sortKeys s.sortPatches
    let settings ← read
    return {
      query, postFilter, aggregations, sort
      highlight := s.highlight.map fun h => h.compile settings
      start := s.page.1
      size := s.page.2
      source := s.source }

end Search

end SearchCompiler
