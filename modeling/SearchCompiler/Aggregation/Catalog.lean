import SearchCompiler.Aggregation.Method
import SearchCompiler.Text.Listing

/-!
Catalogs of aggregation types. A type has one method, the one it was given last, and is a leaf if it
was given as a metric; the types are listed in ascending order.
-/

namespace SearchCompiler

namespace Catalog

structure Entry where
  method : Method
  metric : Bool

end Catalog

structure Catalog where
  entries : Dict Catalog.Entry := .empty

namespace Catalog

instance : Inhabited Catalog := ⟨{}⟩

def empty : Catalog := {}

def addBucket (c : Catalog) (type : String) (method : Method) : Catalog :=
  ⟨c.entries.insert type ⟨method, false⟩⟩

def addMetric (c : Catalog) (type : String) (method : Method) : Catalog :=
  ⟨c.entries.insert type ⟨method, true⟩⟩

def method? (c : Catalog) (type : String) : Option Method :=
  (c.entries.get? type).map Entry.method

def contains (c : Catalog) (type : String) : Bool := c.entries.contains type

def isMetric (c : Catalog) (type : String) : Bool :=
  match c.entries.get? type with
  | some e => e.metric
  | none => false

def size (c : Catalog) : Nat := c.entries.size

def types (c : Catalog) : List String := c.entries.keys

def describe (c : Catalog) : String :=
  "AggregationRegistry \x7b types: " ++ Text.showList c.types ++ " \x7d"

def plainMetrics : List String :=
  ["avg", "sum", "min", "max", "cardinality", "stats", "extended_stats", "value_count",
    "percentiles", "percentile_ranks", "median_absolute_deviation", "string_stats"]

def standardMetrics : List (String × Method) :=
  plainMetrics.map (fun type => (type, Method.metric)) ++
    [("count", Method.count), ("top_hits", Method.topHits)]

def standardBuckets : List (String × Method) :=
  [("terms", Method.terms),
    ("date_histogram", Method.dateHistogram),
    ("histogram", Method.histogram),
    ("filter", Method.filter),
    ("nested", Method.nested),
    ("reverse_nested", Method.reverseNested),
    ("composite", Method.composite),
    ("range", Method.range),
    ("date_range", Method.range),
    ("missing", Method.missing),
    ("raw", Method.raw)]

def standard : Catalog :=
  let metrics := standardMetrics.foldl (fun c e => c.addMetric e.1 e.2) empty
  standardBuckets.foldl (fun c e => c.addBucket e.1 e.2) metrics

end Catalog

end SearchCompiler
