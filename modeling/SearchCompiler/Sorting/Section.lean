import SearchCompiler.Fragment.Joining
import SearchCompiler.Fragment.Points
import SearchCompiler.Lookup
import SearchCompiler.Sorting.Key

/-!
Sort entries: one for each sort key, and patches written into them in turn. A patch goes into the
first entry of its field, or becomes an entry of its own.
-/

namespace SearchCompiler

namespace SortKey

def compile (k : SortKey) : Compile Json := do
  match k.subject with
  | .column =>
    let field ← Compile.lookUp k.column
    let settings := Entries.insert "order" (.string k.direction.name)
      (Fragment.keep Fragment.Allowed.sortByField k.options)
    return .single field (.object settings)
  | .distance point =>
    let unit := (← read).distanceUnit
    return Fragment.distanceSort k.column point k.direction.name unit k.options

def compileList (ks : List SortKey) : Compile (List Json) := ks.mapM compile

end SortKey

namespace SortPatch

def isEntryOf (field : String) (entry : Json) : Bool :=
  (entry.get? Fragment.distanceSortMember).isNone &&
    ((entry.get? field).bind Json.object?).isSome

def override (field : String) (settings : Options) (entry : Json) : Json :=
  match (entry.get? field).bind Json.object? with
  | some present =>
    .object (Entries.insert field (.object (Entries.insertAll settings present)) entry.members)
  | none => entry

def mergeInto (field : String) (settings : Options) : List Json → List Json
  | [] => [.single field (.object settings)]
  | entry :: rest =>
    if isEntryOf field entry then override field settings entry :: rest
    else entry :: mergeInto field settings rest

def applyAll (entries : List Json) : List SortPatch → Compile (List Json)
  | [] => return entries
  | p :: ps => do
    let field ← Compile.lookUp p.column
    applyAll (mergeInto field (Fragment.keep Fragment.Allowed.sortPatch p.settings) entries) ps

end SortPatch

def sortSection (keys : List SortKey) (patches : List SortPatch) : Compile (List Json) := do
  SortPatch.applyAll (← SortKey.compileList keys) patches

def innerHitsOf (keys : List SortKey) (offset limit : Option UInt64) : Compile Json := do
  return Fragment.innerHits (← SortKey.compileList keys) offset limit

end SearchCompiler
