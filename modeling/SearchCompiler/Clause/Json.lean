import SearchCompiler.Clause.Basic

/-!
The JSON form of clauses: one object of a `type`, the members of that form, and how the clause joins
the others. How it joins is read first, then the type, then the members of the form. Sub-clauses are
embedded in their clause, and embedded descriptors have a few more spellings than those that stand
on their own.
-/

namespace SearchCompiler

namespace Combinator

def name : Combinator → String
  | .and => "and"
  | .or => "or"

def ofName : String → Read Combinator
  | "and" => .ok .and
  | "or" => .ok .or
  | _ => .error .misshapen

def ofJson (placement : Placement) : Json → Read Combinator
  | .string s => ofName s
  | .object [(name, .null)] => ofName name
  | .object [(name, .object [])] =>
    if placement = .embedded then ofName name else .error .misshapen
  | _ => .error .misshapen

end Combinator

namespace Condition

def ofRecord (r : Record) (name : String) : Option (Reading Condition) :=
  let column := r.required "column" Json.toText
  let operator := r.required "operator" Operator.ofJson
  let value := r.required "value" Json.toAny
  let textValue := r.required "value" Json.toText
  let columns := Json.toList Json.toText
  match name with
  | "basic" => some (compare <$> column <*> operator <*> value)
  | "in" => some (oneOf <$> column <*> r.required "values" (Json.toList Json.toAny))
  | "between" =>
    some ((fun c (low, high) => between c low high) <$> column <*> r.required "values" Json.toPair)
  | "match" => some (text .words <$> column <*> value)
  | "phrase" => some (text .phrase <$> column <*> value)
  | "phrase_prefix" => some (text .phraseStart <$> column <*> value)
  | "fuzzy" => some (text .fuzzy <$> column <*> value)
  | "term" => some (term <$> column <*> value)
  | "regex" => some (pattern .regex <$> column <*> textValue)
  | "prefix" => some (pattern .start <$> column <*> textValue)
  | "script" => some (script <$> r.required "source" Json.toText)
  | "multi_match" => some (multiMatch <$> r.required "columns" columns <*> value)
  | "query_string" => some (queryString <$> r.withDefault "columns" [] columns <*> textValue)
  | "exists" => some (present <$> column)
  | "date" => some (onDay <$> column <*> operator <*> value)
  | "geo_distance" =>
    some (within <$> column <*> r.required "point" Coordinates.ofJson
      <*> r.required "distance" Json.toText)
  | "geo_box" =>
    some (inBox <$> column <*> r.required "top_left" Coordinates.ofJson
      <*> r.required "bottom_right" Coordinates.ofJson)
  | "parent_id" =>
    some (childOf <$> r.required "child_type" Json.toText <*> r.required "id" Json.toAny)
  | "raw" => some (raw <$> r.required "query" Json.toAny)
  | _ => none

def members : Condition → Options
  | .compare column operator value | .onDay column operator value =>
    [("column", .string column), ("operator", operator.toJson), ("value", value)]
  | .oneOf column values => [("column", .string column), ("values", .array values)]
  | .between column low high => [("column", .string column), ("values", .array [low, high])]
  | .text _ column value | .term column value => [("column", .string column), ("value", value)]
  | .pattern _ column source => [("column", .string column), ("value", .string source)]
  | .script source => [("source", .string source)]
  | .multiMatch columns value => [("columns", .ofStrings columns), ("value", value)]
  | .queryString columns query => [("columns", .ofStrings columns), ("value", .string query)]
  | .present column => [("column", .string column)]
  | .within column point distance =>
    [("column", .string column), ("point", point.toJson), ("distance", .string distance)]
  | .inBox column topLeft bottomRight =>
    [("column", .string column), ("top_left", topLeft.toJson),
      ("bottom_right", bottomRight.toJson)]
  | .childOf childType id => [("child_type", .string childType), ("id", id)]
  | .raw fragment => [("query", fragment)]

end Condition

namespace ClauseForm

def tag? : Json → Option String
  | .string s => some s
  | .number (.int n) => if 0 ≤ n then names[n.toNat]? else none
  | _ => none

/--
The form of the given name, if there is one; `sub` has what was read of the clauses under a member,
if it is there.
-/
def ofRecord {α : Type} (r : Record) (sub : String → Option (Read (List α))) (name : String) :
    Option (Reading (ClauseForm α)) :=
  let clauses := r.member "clauses" ((sub "clauses").getD (.error .misshapen))
  let path := r.required "path" Json.toText
  let related (relative : Relative) (member : String) : Reading (ClauseForm α) :=
    related relative <$> r.required member Json.toText
      <*> r.member "query" ((sub "query").getD (.ok []))
      <*> r.member "filter" ((sub "filter").getD (.ok []))
  match name with
  | "nested" => some (nested .plain <$> path <*> clauses)
  | "nested_object" => some (nested .required <$> path <*> clauses)
  | "inner_nested" =>
    let keys := r.withDefault "orders" [] (Json.toList (SortKey.ofJson .embedded))
    let form := NestedForm.inner <$> keys <*> r.optional "offset" Json.toCount
      <*> r.optional "limit" Json.toCount
    some (nested <$> form <*> path <*> clauses)
  | "function_score" =>
    some (functionScore <$> r.required "function" Json.toText
      <*> r.withDefault "params" .null Json.toAny <*> clauses)
  | "parent" => some (related .parent "parent_type")
  | "child" => some (related .child "child_type")
  | _ => (Condition.ofRecord r name).map (condition <$> ·)

end ClauseForm

namespace Clause

mutual

def ofJson (placement : Placement) : Json → Read Clause
  | .object members => do
    let r : Record := { members }
    let join (combinator : Combinator) (negate : Bool) (options : Options)
        (form : ClauseForm Clause) : Clause :=
      { form, combinator, negate, options }
    let join ← r.finish <| join <$> r.withDefault "combinator" .and (Combinator.ofJson placement)
      <*> r.withDefault "negate" false Json.toBool
      <*> r.withDefault "options" [] Json.toOptions
    let some tag := (Entries.get? "type" members).bind ClauseForm.tag? | throw .misshapen
    let some form := ClauseForm.ofRecord r (fun name => clausesNamed name members) tag
      | throw .misshapen
    join <$> r.finish form
  | _ => .error .misshapen

def clausesNamed (name : String) : Options → Option (Read (List Clause))
  | [] => none
  | (k, v) :: rest => if name = k then some (subClauses v) else clausesNamed name rest

def subClauses : Json → Read (List Clause)
  | .array items => embeddedClauses items
  | _ => .error .misshapen

def embeddedClauses : List Json → Read (List Clause)
  | [] => .ok []
  | v :: vs => do
    let c ← ofJson .embedded v
    let cs ← embeddedClauses vs
    return c :: cs

end

def ofValue (v : Json) : Read Clause :=
  match (v.get? "type").bind Json.string? with
  | none => .error (.descriptor .untypedClause)
  | some name =>
    if name ∈ ClauseForm.names then ofJson .standalone v else .error (.unknownClause name)

def listOfJson : Json → Read (List Clause) := Json.toList (ofJson .standalone)

def combinedMembers (name : String) (members : Options) (combinator : Combinator) (negate : Bool)
    (options : Options) : Json :=
  .ofMembers (members.map (fun m => (m.1, some m.2)) ++ [
    ("type", some (.string name)),
    ("combinator", some (.string combinator.name)),
    ("negate", some (.bool negate)),
    ("options", if options.isEmpty then none else some (.object options))])

def nestedMembers : NestedForm → Options
  | .plain | .required => []
  | .inner keys offset limit =>
    [("orders", .array (keys.map SortKey.toJson)), ("offset", .ofOption .ofUInt64 offset),
      ("limit", .ofOption .ofUInt64 limit)]

def relativeMember : Relative → String
  | .parent => "parent_type"
  | .child => "child_type"

mutual

def toJson : Clause → Json
  | ⟨form, combinator, negate, options⟩ =>
    combinedMembers form.name (formMembers form) combinator negate options

def formMembers : ClauseForm Clause → Options
  | .condition c => c.members
  | .nested form path clauses =>
    ("path", .string path) :: ("clauses", .array (listToJson clauses)) :: nestedMembers form
  | .functionScore function params clauses =>
    [("function", .string function), ("params", params), ("clauses", .array (listToJson clauses))]
  | .related relative type query filter =>
    [(relativeMember relative, .string type), ("query", .array (listToJson query)),
      ("filter", .array (listToJson filter))]

def listToJson : List Clause → List Json
  | [] => []
  | c :: cs => toJson c :: listToJson cs

end

end Clause

end SearchCompiler
