import SearchCompiler.Record

/-!
The fields of an index as a table from dotted paths to declared types. A path lies at or below a
name when it is the name or goes on with a dot; the table is in ascending order, so the paths that
start with a name stand together.
-/

namespace SearchCompiler

abbrev FieldTable := Dict DataType

def joinPath (parent child : String) : String :=
  if parent.isEmpty then child else parent ++ "." ++ child

def covers (name path : String) : Bool :=
  path == name || Text.startsWith path (name ++ ".")

namespace FieldTable

def ofPairs (pairs : List (String × String)) : FieldTable :=
  .ofList (pairs.map fun p => (p.1, DataType.ofName p.2))

def subtree (m : FieldTable) (name : String) : List (String × DataType) :=
  ((m.entries.dropWhile fun e => e.1 < name).takeWhile fun e => Text.startsWith e.1 name).filter
    fun e => covers name e.1

def exactPath? (m : FieldTable) (name : String) : Option String :=
  ((subtree m name).find? fun e => e.2.isExact).map Prod.fst

def ofJson : Json → Read FieldTable :=
  Json.toRecord ["fields"] fun r => r.required "fields" (Json.toDict DataType.ofJson)

def toTable (m : FieldTable) : Json := .ofDict (fun t => .string t.name) m

def toJson (m : FieldTable) : Json := .record [("fields", toTable m)]

end FieldTable

abbrev Provider := String → Except Failure FieldTable

def Provider.ofTable (reason : String) (table : Dict FieldTable) : Provider := fun index =>
  match table.get? index with
  | some fields => .ok fields
  | none => .error (.mappingUnavailable index reason)

end SearchCompiler
