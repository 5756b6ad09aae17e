import SearchCompiler.Aggregation.Basic

/-!
Rows from the engine's answer to a grouping: one for each innermost bucket, with the keys that lead
to it, the number of its documents, and its metrics. The order is that of the answer.
-/

namespace SearchCompiler.Rows

def countMember : String := "_count"

def outermost (response : Json) : Json := (response.get? "aggregations").getD response

def measure (result : Json) : Json :=
  match result.get? "value", result.get? "values" with
  | some value, none => value
  | _, _ => result

def buckets (field : String) (node : Json) : List Json :=
  (((node.get? field).bind (·.get? "buckets")).bind Json.array?).getD []

def withKey (field : String) (bucket : Json) (row : Options) : Options :=
  Entries.insert field ((bucket.get? "key").getD .null) row

def withMeasures (metrics : List String) (node : Json) (row : Options) : Options :=
  metrics.foldl
    (fun row key =>
      match node.get? key with
      | some result => Entries.insert key (measure result) row
      | none => row)
    row

def complete (metrics : List String) (bucket : Json) (row : Options) : Options :=
  withMeasures metrics bucket
    (Entries.insert countMember ((bucket.get? "doc_count").getD (.int 0)) row)

def below (metrics : List String) : List String → Options → Json → List Options
  | [], _, _ => []
  | [field], row, node =>
    (buckets field node).map fun bucket => complete metrics bucket (withKey field bucket row)
  | field :: next :: fields, row, node =>
    (buckets field node).flatMap fun bucket =>
      below metrics (next :: fields) (withKey field bucket row) bucket

def ofResponse (fields metrics : List String) (response : Json) : List Options :=
  below metrics fields [] (outermost response)

def measures (as : List Aggregation) (response : Json) : Options :=
  withMeasures (as.map Aggregation.key) (outermost response) []

end SearchCompiler.Rows
