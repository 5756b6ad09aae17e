import SearchCompiler.Aggregation.Basic
import SearchCompiler.Clause.Json

/-!
The JSON form of aggregations: a record for each node, and for its arguments an object whose one
member names their shape.
-/

namespace SearchCompiler

namespace IntervalStyle

def name : IntervalStyle → String
  | .calendar => "calendar"
  | .fixed => "fixed"

def ofName : String → Read IntervalStyle
  | "calendar" => .ok .calendar
  | "fixed" => .ok .fixed
  | _ => .error .misshapen

def ofJson : Json → Read IntervalStyle
  | .string s => ofName s
  | .object [(name, .null)] => ofName name
  | _ => .error .misshapen

def toJson (s : IntervalStyle) : Json := .string s.name

end IntervalStyle

namespace DateHistogram

def ofJson : Json → Read DateHistogram :=
  Json.toRecord ["field", "interval", "interval_kind", "extended_bounds"] fun r =>
    mk <$> r.required "field" Json.toText
      <*> r.required "interval" Json.toText
      <*> r.optional "interval_kind" IntervalStyle.ofJson
      <*> r.optional "extended_bounds" Json.toPair

def toJson (h : DateHistogram) : Json :=
  .record [
    ("field", .string h.field),
    ("interval", .string h.interval),
    ("interval_kind", .ofOption IntervalStyle.toJson h.style),
    ("extended_bounds", .ofOption (fun b => .array [b.1, b.2]) h.bounds)]

end DateHistogram

namespace Arguments

def rangesOf : Json → Read Arguments
  | .object members =>
    let r : Record := { members }
    r.finish <| ranges <$> r.required "field" Json.toText
      <*> r.required "ranges" (Json.toList Json.toAny)
  | _ => .error .misshapen

def ofMember (name : String) (v : Json) : Read Arguments :=
  match name with
  | "none" => if v.isNull then .ok .none else .error .misshapen
  | "field" => v.toText.map .field
  | "fields" => (v.toList Json.toText).map .fields
  | "path" => v.toText.map .path
  | "filter" => (Clause.listOfJson v).map .filter
  | "ranges" => rangesOf v
  | "date_histogram" => (DateHistogram.ofJson v).map .dateHistogram
  | "raw" => .ok (.raw v)
  | _ => .error .misshapen

def ofJson : Json → Read Arguments
  | .string s => if s = "none" then .ok .none else .error .misshapen
  | .object [(name, v)] => ofMember name v
  | _ => .error .misshapen

def toJson : Arguments → Json
  | .none => .string "none"
  | .field f => .single "field" (.string f)
  | .fields fs => .single "fields" (.ofStrings fs)
  | .path p => .single "path" (.string p)
  | .filter clauses => .single "filter" (.array (Clause.listToJson clauses))
  | .ranges f rs => .single "ranges" (.record [("field", .string f), ("ranges", .array rs)])
  | .dateHistogram h => .single "date_histogram" h.toJson
  | .raw fragment => .single "raw" fragment

end Arguments

namespace Aggregation

def names : List String := ["key", "type", "args", "options", "sub_aggregations"]

def ofRecord (r : Record) (children : Read (List Aggregation)) : Read Aggregation :=
  r.finish <| mk <$> r.required "key" Json.toText
    <*> r.required "type" Json.toText
    <*> r.withDefault "args" .none Arguments.ofJson
    <*> r.withDefault "options" [] Json.toOptions
    <*> r.member "sub_aggregations" children

mutual

def ofJson : Json → Read Aggregation
  | .object members => ofRecord { members } (childrenNamed members)
  | .array items => ofRecord (.listed names items) (childrenListed items)
  | _ => .error .misshapen

def childrenNamed : Options → Read (List Aggregation)
  | [] => .ok []
  | (k, v) :: rest => if k = "sub_aggregations" then childrenOf v else childrenNamed rest

def childrenListed : List Json → Read (List Aggregation)
  | _ :: _ :: _ :: _ :: v :: _ => childrenOf v
  | _ => .ok []

def childrenOf : Json → Read (List Aggregation)
  | .array items => listOf items
  | _ => .error .misshapen

def listOf : List Json → Read (List Aggregation)
  | [] => .ok []
  | v :: vs => do
    let a ← ofJson v
    let as ← listOf vs
    return a :: as

end

mutual

def toJson : Aggregation → Json
  | ⟨key, type, args, options, children⟩ =>
    .ofMembers [
      ("key", some (.string key)),
      ("type", some (.string type)),
      ("args", some args.toJson),
      ("options", if options.isEmpty then none else some (.object options)),
      ("sub_aggregations",
        if children.isEmpty then none else some (.array (listToJson children)))]

def listToJson : List Aggregation → List Json
  | [] => []
  | a :: as => toJson a :: listToJson as

end

end Aggregation

end SearchCompiler
