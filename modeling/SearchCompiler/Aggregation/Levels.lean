import SearchCompiler.Aggregation.Grouping
import SearchCompiler.Aggregation.Section

/-!
The levels of a grouping: a terms aggregation for each field, each level inside the one before it,
and the metrics inside the innermost. A level is called as its field is.
-/

namespace SearchCompiler.Grouping

def countName : String := "_count"

def orderOf (keys : List SortKey) (field : String) : Options :=
  let order (member : String) (k : SortKey) : Options :=
    [("order", .single member (.string k.direction.name))]
  match keys.find? fun k => k.column == field with
  | some k => order "_key" k
  | none =>
    match keys.find? fun k => k.column == countName with
    | some k => order "_count" k
    | none => []

def levels (size : UInt64) (keys : List SortKey) (innermost : Options) :
    List String → Compile Options
  | [] => return innermost
  | field :: fields => do
    let inner ← levels size keys innermost fields
    let column ← Compile.lookUp field
    let level := Fragment.termsBuckets column size (orderOf keys field)
    if inner.isEmpty then return [(field, level)]
    return [(field, .object (Entries.insert "aggs" (.object inner) level.members))]

def compile (g : Grouping) (catalog : Catalog) : Compile Options := do
  if g.fields.isEmpty then Compile.fail (.descriptor .noGroupingField)
  else
    match g.metrics.find? fun m => !catalog.isMetric m.type with
    | some m => Compile.fail (.descriptor (.bucketAsMetric m.key m.type))
    | none =>
      let size := g.size.getD (← read).groupsSize
      let metrics ← Aggregation.compileList catalog g.metrics
      levels size g.keys metrics g.fields

end SearchCompiler.Grouping
