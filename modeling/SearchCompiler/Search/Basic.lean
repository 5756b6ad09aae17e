import SearchCompiler.Aggregation.Grouping
import SearchCompiler.Search.Highlight

/-!
Everything that one search asks for, and its JSON form.
-/

namespace SearchCompiler

structure Search where
  scored : List Clause := []
  filters : List Clause := []
  postFilters : List Clause := []
  sortKeys : List SortKey := []
  sortPatches : List SortPatch := []
  highlight : Option Highlight := none
  aggregations : List Aggregation := []
  grouping : Option Grouping := none
  offset : Option UInt64 := none
  limit : Option UInt64 := none
  source : Option (List String) := none
  overrides : Dict String := .empty

namespace Search

def names : List String :=
  ["wheres", "filters", "post_filters", "orders", "sorts", "highlight", "aggregations", "distinct",
    "offset", "limit", "source", "field_overrides"]

def ofJson : Json → Read Search :=
  Json.toRecord names fun r =>
    mk <$> r.withDefault "wheres" [] Clause.listOfJson
      <*> r.withDefault "filters" [] Clause.listOfJson
      <*> r.withDefault "post_filters" [] Clause.listOfJson
      <*> r.withDefault "orders" [] (Json.toList (SortKey.ofJson .standalone))
      <*> r.withDefault "sorts" [] (Json.toList SortPatch.ofJson)
      <*> r.optional "highlight" Highlight.ofJson
      <*> r.withDefault "aggregations" [] (Json.toList Aggregation.ofJson)
      <*> r.optional "distinct" Grouping.ofJson
      <*> r.optional "offset" Json.toCount
      <*> r.optional "limit" Json.toCount
      <*> r.optional "source" (Json.toList Json.toText)
      <*> r.withDefault "field_overrides" .empty (Json.toDict Json.toText)

def toJson (s : Search) : Json :=
  .record [
    ("wheres", .array (Clause.listToJson s.scored)),
    ("filters", .array (Clause.listToJson s.filters)),
    ("post_filters", .array (Clause.listToJson s.postFilters)),
    ("orders", .array (s.sortKeys.map SortKey.toJson)),
    ("sorts", .array (s.sortPatches.map SortPatch.toJson)),
    ("highlight", .ofOption Highlight.toJson s.highlight),
    ("aggregations", .array (Aggregation.listToJson s.aggregations)),
    ("distinct", .ofOption Grouping.toJson s.grouping),
    ("offset", .ofOption .ofUInt64 s.offset),
    ("limit", .ofOption .ofUInt64 s.limit),
    ("source", .ofOption .ofStrings s.source),
    ("field_overrides", .ofDict .string s.overrides)]

end Search

end SearchCompiler
