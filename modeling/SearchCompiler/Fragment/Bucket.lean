import SearchCompiler.Fragment.Basic
import SearchCompiler.Record

/-!
Bucket aggregations, which sort documents into buckets.
-/

namespace SearchCompiler.Fragment

def termsBuckets (field : String) (size : UInt64) (options : Options) : Json :=
  body "terms"
    (withMember "field" (.string field)
      (withDefault "size" (.ofUInt64 size) (keep Allowed.termsBuckets options)))

def dateHistogram (field intervalKey interval : String) (bounds : Option (Int × Int))
    (options : Options) : Json :=
  let members := withMember intervalKey (.string interval)
    (withMember "field" (.string field) (keep Allowed.dateHistogram options))
  body "date_histogram" <|
    match bounds with
    | some (low, high) =>
      withMember "extended_bounds" (.record [("min", .int low), ("max", .int high)]) members
    | none => members

def histogram (field : String) (options : Options) : Json :=
  body "histogram" (withMember "field" (.string field) (keep Allowed.histogram options))

def rangeBuckets (kind field : String) (ranges : List Json) (options : Options) : Json :=
  body kind
    (withMember "ranges" (.array ranges)
      (withMember "field" (.string field) (keep Allowed.rangeBuckets options)))

def filterBucket (query : Json) : Json := .single "filter" query

def nestedBucket (path : String) : Json := body "nested" [("path", .string path)]

def reverseNestedBucket (path : Option String) : Json :=
  body "reverse_nested" <|
    match path with
    | some p => [("path", .string p)]
    | none => []

def compositeBuckets (sources : List (String × String)) (options : Options) : Json :=
  let source (s : String × String) : Json :=
    .single s.1 (body "terms" [("field", .string s.2)])
  body "composite"
    (withMember "sources" (.array (sources.map source)) (keep Allowed.compositeBuckets options))

def missingBucket (field : String) : Json := body "missing" [("field", .string field)]

end SearchCompiler.Fragment
