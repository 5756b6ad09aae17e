import SearchCompiler.Clause.Basic

/-!
Aggregations: trees of buckets and metrics over the matching documents. A node has a type, arguments
of the shape that its type needs, and children that are taken in each of its buckets.
-/

namespace SearchCompiler

inductive IntervalStyle where
  | calendar | fixed
  deriving DecidableEq

namespace IntervalStyle

def calendarUnits : List String :=
  ["minute", "1m", "hour", "1h", "day", "1d", "week", "1w", "month", "1M", "quarter", "1q",
    "year", "1y"]

def ofInterval (interval : String) : IntervalStyle :=
  if interval ∈ calendarUnits then .calendar else .fixed

def member : IntervalStyle → String
  | .calendar => "calendar_interval"
  | .fixed => "fixed_interval"

end IntervalStyle

structure DateHistogram where
  field : String
  interval : String
  style : Option IntervalStyle := none
  bounds : Option (Json × Json) := none

inductive Arguments where
  | none
  | field (field : String)
  | fields (fields : List String)
  | path (path : String)
  | filter (clauses : List Clause)
  | ranges (field : String) (ranges : List Json)
  | dateHistogram (histogram : DateHistogram)
  | raw (fragment : Json)

structure Aggregation where
  key : String
  type : String
  args : Arguments := .none
  options : Options := []
  children : List Aggregation := []

namespace Aggregation

def ofField (key type field : String) : Aggregation := { key, type, args := .field field }

def ofClauses (key : String) (clauses : List Clause) : Aggregation :=
  { key, type := "filter", args := .filter clauses }

def ofInterval (key field interval : String) : Aggregation :=
  { key, type := "date_histogram", args := .dateHistogram { field, interval } }

def setOption (a : Aggregation) (name : String) (value : Json) : Aggregation :=
  { a with options := Entries.insert name value a.options }

def addChild (a child : Aggregation) : Aggregation :=
  { a with children := a.children ++ [child] }

end Aggregation

end SearchCompiler
