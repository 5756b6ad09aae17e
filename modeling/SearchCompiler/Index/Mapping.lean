import SearchCompiler.Index.FieldTable

/-!
Index mappings as the engine declares them: a tree of properties, each with properties below it and
with variants that index the same value another way. The field table of a mapping lists the tree by
dotted paths.
-/

namespace SearchCompiler

structure Property where
  type : Option DataType := none
  properties : Option (List (String × Property)) := none
  variants : Option (List (String × Property)) := none

namespace Property

def ofType (type : DataType) : Property := { type := some type }

def addProperty (m : Property) (name : String) (sub : Property) : Property :=
  { m with properties := some (Entries.insert name sub (m.properties.getD [])) }

def addVariant (m : Property) (name : String) (sub : Property) : Property :=
  { m with variants := some (Entries.insert name sub (m.variants.getD [])) }

def dynamicString : Property :=
  (ofType .text).addVariant "keyword" (ofType .keyword)

def typeOrObject (m : Property) : DataType := m.type.getD .object

mutual

def tableEntries (parent : String) : List (String × Property) → List (String × DataType)
  | [] => []
  | (name, m) :: rest => entries (joinPath parent name) m ++ tableEntries parent rest

def entries (path : String) : Property → List (String × DataType)
  | ⟨type, properties, variants⟩ =>
    (path, type.getD .object) :: (optionalEntries path properties ++ optionalEntries path variants)

def optionalEntries (path : String) : Option (List (String × Property)) → List (String × DataType)
  | none => []
  | some table => tableEntries path table

end

mutual

def ofJson : Json → Read Property
  | .object members => do
    return {
      type := ← Options.optional members "type" DataType.ofJson
      properties := ← tableNamed "properties" members
      variants := ← tableNamed "fields" members }
  | .array [] => .ok {}
  | .array [type] => do
    return { type := ← type.toOption DataType.ofJson }
  | .array [type, properties] => do
    return {
      type := ← type.toOption DataType.ofJson
      properties := ← optionalTable properties }
  | .array [type, properties, variants] => do
    return {
      type := ← type.toOption DataType.ofJson
      properties := ← optionalTable properties
      variants := ← optionalTable variants }
  | _ => .error .misshapen

def tableNamed (name : String) : Options → Read (Option (List (String × Property)))
  | [] => .ok none
  | (k, v) :: rest => if name = k then optionalTable v else tableNamed name rest

def optionalTable : Json → Read (Option (List (String × Property)))
  | .null => .ok none
  | .object members => (tableOf members).map some
  | _ => .error .misshapen

def tableOf : Options → Read (List (String × Property))
  | [] => .ok []
  | (k, v) :: rest => do
    let m ← ofJson v
    let table ← tableOf rest
    return (k, m) :: table

end

mutual

def toJson : Property → Json
  | ⟨type, properties, variants⟩ =>
    .ofMembers [
      ("type", type.map fun t => .string t.name),
      ("properties", optionalToJson properties),
      ("fields", optionalToJson variants)]

def optionalToJson : Option (List (String × Property)) → Option Json
  | none => none
  | some table => some (.object (tableToJson table))

def tableToJson : List (String × Property) → Options
  | [] => []
  | (name, m) :: rest => (name, toJson m) :: tableToJson rest

end

end Property

structure Mapping where
  properties : List (String × Property) := []

namespace Mapping

def addField (m : Mapping) (name : String) (field : Property) : Mapping :=
  { m with properties := Entries.insert name field m.properties }

def fieldTable (m : Mapping) : FieldTable :=
  .ofList (Property.tableEntries "" m.properties)

def tableOf : Json → Read (List (String × Property))
  | .object members => Property.tableOf members
  | _ => .error .misshapen

def ofJson : Json → Read Mapping :=
  Json.toRecord ["properties"] fun r => mk <$> r.withDefault "properties" [] tableOf

def toJson (m : Mapping) : Json :=
  .record [("properties", .object (Property.tableToJson m.properties))]

/--
The mapping body in a response about `index`: under `mappings` of the index, else under `mappings`,
else the response itself.
-/
def bodyOf (index : String) (response : Json) : Json :=
  match (response.get? index).bind (·.get? "mappings") with
  | some body => body
  | none => (response.get? "mappings").getD response

def ofResponse (index : String) (response : Json) : Read Mapping :=
  let body := bodyOf index response
  if body.isObject then ofJson body
  else .error (.mappingUnavailable index "mapping body must be a JSON object")

end Mapping

namespace FieldTable

def ofDeclaration (index : String) : Json → Read FieldTable
  | .array pairs => do
    let pairs ← pairs.mapM fun pair => do
      let (path, type) ← pair.toPair
      return (← path.toText, ← type.toText)
    return ofPairs pairs
  | v => (Mapping.ofResponse index v).map Mapping.fieldTable

end FieldTable

end SearchCompiler
