import SearchCompiler.Fragment.Basic
import SearchCompiler.Record

/-!
Metric aggregations, which compute values from the documents of a bucket.
-/

namespace SearchCompiler.Fragment

def metric (kind : String) (field : Option String) (options : Options) : Json :=
  let members := keep Allowed.metric options
  body kind <|
    match field with
    | some f => withMember "field" (.string f) members
    | none => members

def countSource : String :=
  "doc.containsKey(params.field) && doc[params.field].size() > 0 ? doc[params.field].value : 0"

def scriptedCount (field : String) : Json :=
  body "value_count" [("script", .record [
    ("source", .string countSource), ("params", .single "field" (.string field))])]

def topHits (options : Options) : Json :=
  body "top_hits" (keep Allowed.topHits options)

end SearchCompiler.Fragment
