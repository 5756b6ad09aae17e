import SearchCompiler.Aggregation.Json

/-!
Groupings: the distinct combinations of the values of some fields, with metrics for each
combination.
-/

namespace SearchCompiler

structure Grouping where
  fields : List String := []
  metrics : List Aggregation := []
  keys : List SortKey := []
  size : Option UInt64 := none

namespace Grouping

def addMetric (g : Grouping) (metric : Aggregation) : Grouping :=
  { g with metrics := g.metrics ++ [metric] }

def addKey (g : Grouping) (key : SortKey) : Grouping :=
  { g with keys := g.keys ++ [key] }

def ofJson : Json → Read Grouping :=
  Json.toRecord ["fields", "metrics", "orders", "size"] fun r =>
    mk <$> r.required "fields" (Json.toList Json.toText)
      <*> r.withDefault "metrics" [] (Json.toList Aggregation.ofJson)
      <*> r.withDefault "orders" [] (Json.toList (SortKey.ofJson .standalone))
      <*> r.optional "size" Json.toCount

def toJson (g : Grouping) : Json :=
  .record [
    ("fields", .ofStrings g.fields),
    ("metrics", .array (Aggregation.listToJson g.metrics)),
    ("orders", .array (g.keys.map SortKey.toJson)),
    ("size", .ofOption .ofUInt64 g.size)]

end Grouping

end SearchCompiler
