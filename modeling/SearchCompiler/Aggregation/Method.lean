import SearchCompiler.Aggregation.Basic
import SearchCompiler.Fragment.Bucket
import SearchCompiler.Fragment.Metric
import SearchCompiler.Query.Assertion

/-!
Methods, which compile the own fragment of an aggregation and leave its children to the caller: one
for each type that the engine has, and a few to make further types from.
-/

namespace SearchCompiler

/-- Compiles an aggregation's own fragment; the first argument compiles any other aggregation. -/
abbrev Method := (Aggregation → Compile Json) → Aggregation → Compile Json

namespace Method

def direct (compile : Aggregation → Compile Json) : Method := fun _ a => compile a

def constant (fragment : Json) : Method := direct fun _ => return fragment

def refuse (text : String) : Method := direct fun _ => Compile.fail (.descriptor (.refused text))

def delegate (type : String) : Method := fun compileOther a =>
  compileOther { a with type, children := [] }

def onColumnOrKey : Method := direct fun a => do
  let field ←
    match a.args with
    | .field f => Compile.lookUp f
    | _ => pure a.key
  let size := (← read).termsSize
  return Fragment.body a.type [("field", .string field), ("size", .ofUInt64 size)]

def lacking {α : Type} (a : Aggregation) (requirement : Requirement) : Compile α :=
  Compile.fail (.descriptor (.argumentNeeded a.key a.type requirement))

def lookUpField (a : Aggregation) : Compile String :=
  match a.args with
  | .field f => Compile.lookUp f
  | _ => lacking a .field

def metric : Method := direct fun a => do
  match a.args with
  | .field f =>
    let field ← Compile.lookUp f
    return Fragment.metric a.type (some field) a.options
  | .none =>
    if Entries.hasKey "script" a.options then return Fragment.metric a.type none a.options
    lacking a .fieldOrScript
  | _ => lacking a .fieldOrScript

def count : Method := direct fun a => do
  return Fragment.scriptedCount (← lookUpField a)

def topHits : Method := direct fun a => return Fragment.topHits a.options

def terms : Method := direct fun a => do
  let field ← lookUpField a
  return Fragment.termsBuckets field (← read).termsSize a.options

def millisBounds (bounds : Option (Json × Json)) : Read (Option (Int × Int)) :=
  match bounds with
  | none => .ok none
  | some (low, high) => do return some (← low.toMillis, ← high.toMillis)

def dateHistogram : Method := direct fun a => do
  match a.args with
  | .dateHistogram h =>
    let style := h.style.getD (.ofInterval h.interval)
    let bounds ← Compile.ofRead (millisBounds h.bounds)
    let field ← Compile.lookUp h.field
    return Fragment.dateHistogram field style.member h.interval bounds a.options
  | _ => lacking a .dateHistogram

def histogram : Method := direct fun a => do
  if !Entries.hasKey "interval" a.options then lacking a .intervalOption
  else return Fragment.histogram (← lookUpField a) a.options

def filter : Method := direct fun a => do
  match a.args with
  | .filter clauses => return Fragment.filterBucket (← Clause.compileList clauses).toJson
  | _ => lacking a .filterClauses

def nested : Method := direct fun a => do
  match a.args with
  | .path p => return Fragment.nestedBucket p
  | _ => lacking a .nestedPath

def reverseNested : Method := direct fun a => do
  match a.args with
  | .path p => return Fragment.reverseNestedBucket (some p)
  | .none => return Fragment.reverseNestedBucket none
  | _ => lacking a .pathOrNothing

def composite : Method := direct fun a => do
  match a.args with
  | .fields (f :: fs) =>
    let sources ← (f :: fs).mapM fun f => do return (f, ← Compile.lookUp f)
    return Fragment.compositeBuckets sources a.options
  | _ => lacking a .sourceField

def range : Method := direct fun a => do
  match a.args with
  | .ranges f (r :: rs) =>
    let field ← Compile.lookUp f
    return Fragment.rangeBuckets a.type field (r :: rs) a.options
  | _ => lacking a .fieldAndRanges

def missing : Method := direct fun a => do
  return Fragment.missingBucket (← lookUpField a)

def raw : Method := direct fun a => do
  match a.args with
  | .raw fragment => return fragment
  | _ => lacking a .rawBody

end Method

end SearchCompiler
