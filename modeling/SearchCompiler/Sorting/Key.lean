import SearchCompiler.Coordinates

/-!
What the hits are sorted by. A sort key takes the values of a column or the distance from a point; a
sort patch changes the settings of the keys of one column.
-/

namespace SearchCompiler

inductive Direction where
  | ascending | descending
  deriving DecidableEq

namespace Direction

def name : Direction → String
  | .ascending => "asc"
  | .descending => "desc"

def code : Direction → Int
  | .ascending => 1
  | .descending => -1

def ofJson : Json → Read Direction
  | .number (.int n) =>
    if n = 1 then .ok .ascending
    else if n = -1 then .ok .descending
    else if -128 ≤ n ∧ n ≤ 127 then .error (.misread (.direction n))
    else .error .misshapen
  | _ => .error .misshapen

def toJson (d : Direction) : Json := .int d.code

end Direction

inductive SortSubject where
  | column
  | distance (point : Coordinates)
  deriving DecidableEq

namespace SortSubject

def names : List String := ["basic", "geo_distance"]

def tag? (placement : Placement) : Json → Option String
  | .string s => some s
  | .number (.int n) =>
    if placement = .embedded ∧ 0 ≤ n then names[n.toNat]? else none
  | _ => none

def ofTag (tag : Option String) (point : Option Json) : Read SortSubject :=
  match tag, point with
  | some "basic", _ => .ok .column
  | some "geo_distance", some v => (Coordinates.ofJson v).map .distance
  | _, _ => .error .misshapen

def ofJson (placement : Placement) : Json → Read SortSubject
  | .object members =>
    ofTag ((Entries.get? "type" members).bind (tag? placement)) (Entries.get? "point" members)
  | .array [tag] => ofTag (tag? placement tag) none
  | .array [tag, point] =>
    if tag? placement tag = some "basic" then .error .misshapen
    else ofTag (tag? placement tag) (some point)
  | _ => .error .misshapen

def toJson : SortSubject → Json
  | .column => .record [("type", .string "basic")]
  | .distance point => .record [("type", .string "geo_distance"), ("point", point.toJson)]

end SortSubject

structure SortKey where
  column : String
  direction : Direction := .ascending
  subject : SortSubject := .column
  options : Options := []

namespace SortKey

def setOption (k : SortKey) (name : String) (value : Json) : SortKey :=
  { k with options := Entries.insert name value k.options }

def ofJson (placement : Placement) : Json → Read SortKey :=
  Json.toRecord ["column", "direction", "kind", "options"] fun r =>
    mk <$> r.required "column" Json.toText
      <*> r.withDefault "direction" .ascending Direction.ofJson
      <*> r.withDefault "kind" .column (SortSubject.ofJson placement)
      <*> r.withDefault "options" [] Json.toOptions

def toJson (k : SortKey) : Json :=
  .ofMembers [
    ("column", some (.string k.column)),
    ("direction", some k.direction.toJson),
    ("kind", some k.subject.toJson),
    ("options", if k.options.isEmpty then none else some (.object k.options))]

end SortKey

structure SortPatch where
  column : String
  settings : Options

namespace SortPatch

def ofDirection (column : String) (direction : Direction) : SortPatch :=
  ⟨column, [("order", .string direction.name)]⟩

def ofJson : Json → Read SortPatch :=
  Json.toRecord ["column", "settings"] fun r =>
    mk <$> r.required "column" Json.toText <*> r.required "settings" Json.toOptions

def toJson (p : SortPatch) : Json :=
  .record [("column", .string p.column), ("settings", .object p.settings)]

end SortPatch

end SearchCompiler
