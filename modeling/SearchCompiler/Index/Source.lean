import SearchCompiler.Index.FieldTable

/-!
Where columns are looked up. A source knows its index and a provider of mappings; a mapping is
fetched when a column first needs it and kept in the memory from then on. Nothing that was kept is
dropped or replaced by a look-up, and a failed fetch keeps nothing.
-/

namespace SearchCompiler

abbrev Cache := Dict FieldTable

/-- The kept mapping of `index`, or the fetched one, which is kept if there is one. -/
def Cache.recall (cache : Cache) (index : String) (fetched : Except Failure FieldTable) :
    Except Failure FieldTable × Cache :=
  match cache.get? index with
  | some fields => (.ok fields, cache)
  | none =>
    match fetched with
    | .ok fields => (.ok fields, cache.insert index fields)
    | .error e => (.error e, cache)

structure Memory where
  cache : Cache := .empty
  requests : List String := []

structure Source where
  index : String
  provider : Provider
  trusting : Bool := false

namespace Source

def idColumn : String := "_id"

def pseudoColumns : List String := ["_score", "_count", "_key", "_doc"]

def wellKnown? (column : String) : Option String :=
  if column = "id" ∨ column = idColumn then some idColumn
  else if column ∈ pseudoColumns then some column
  else none

def fields (s : Source) (m : Memory) : Except Failure FieldTable × Memory :=
  let (result, cache) := m.cache.recall s.index (s.provider s.index)
  (result, {
    cache
    requests := if m.cache.contains s.index then m.requests else m.requests ++ [s.index] })

def pathIn (s : Source) (column : String) (fields : FieldTable) : Except Failure String :=
  match fields.exactPath? column with
  | some path => .ok path
  | none => .error (.noExactField column s.index)

def lookUp (s : Source) (column : String) (m : Memory) : Except Failure String × Memory :=
  match wellKnown? column with
  | some name => (.ok name, m)
  | none =>
    if s.trusting then (.ok column, m)
    else
      let (fields, m) := s.fields m
      (fields.bind (s.pathIn column), m)

def dataType (s : Source) (path : String) (m : Memory) :
    Except Failure (Option DataType) × Memory :=
  let (fields, m) := s.fields m
  (fields.map fun f => f.get? path, m)

end Source

end SearchCompiler
