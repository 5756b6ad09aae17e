import SearchCompiler.Sorting.Key

/-!
Clauses: one condition, or a group of clauses that are nested, scored by a function or asked of a
related document, and how each joins the clauses in front of it.
-/

namespace SearchCompiler

inductive Combinator where
  | and | or
  deriving DecidableEq

inductive TextStyle where
  | words | phrase | phraseStart | fuzzy
  deriving DecidableEq

inductive PatternStyle where
  | regex | start
  deriving DecidableEq

inductive Condition where
  | compare (column : String) (operator : Operator) (value : Json)
  | oneOf (column : String) (values : List Json)
  | between (column : String) (low high : Json)
  | text (style : TextStyle) (column : String) (value : Json)
  | term (column : String) (value : Json)
  | pattern (style : PatternStyle) (column pattern : String)
  | script (source : String)
  | multiMatch (columns : List String) (value : Json)
  | queryString (columns : List String) (query : String)
  | present (column : String)
  | onDay (column : String) (operator : Operator) (value : Json)
  | within (column : String) (point : Coordinates) (distance : String)
  | inBox (column : String) (topLeft bottomRight : Coordinates)
  | childOf (childType : String) (id : Json)
  | raw (fragment : Json)

inductive NestedForm where
  | plain
  | required
  | inner (keys : List SortKey) (offset limit : Option UInt64)

inductive Relative where
  | parent | child
  deriving DecidableEq

inductive ClauseForm (α : Type) where
  | condition (c : Condition)
  | nested (form : NestedForm) (path : String) (clauses : List α)
  | functionScore (function : String) (params : Json) (clauses : List α)
  | related (relative : Relative) (type : String) (query filter : List α)

structure Clause where
  form : ClauseForm Clause
  combinator : Combinator := .and
  negate : Bool := false
  options : Options := []

namespace Condition

def name : Condition → String
  | .compare .. => "basic"
  | .oneOf .. => "in"
  | .between .. => "between"
  | .text .words .. => "match"
  | .text .phrase .. => "phrase"
  | .text .phraseStart .. => "phrase_prefix"
  | .text .fuzzy .. => "fuzzy"
  | .term .. => "term"
  | .pattern .regex .. => "regex"
  | .pattern .start .. => "prefix"
  | .script .. => "script"
  | .multiMatch .. => "multi_match"
  | .queryString .. => "query_string"
  | .present .. => "exists"
  | .onDay .. => "date"
  | .within .. => "geo_distance"
  | .inBox .. => "geo_box"
  | .childOf .. => "parent_id"
  | .raw .. => "raw"

end Condition

def ClauseForm.names : List String :=
  ["basic", "in", "between", "match", "phrase", "phrase_prefix", "fuzzy", "term", "regex",
    "prefix", "script", "multi_match", "query_string", "exists", "date", "geo_distance",
    "geo_box", "nested", "nested_object", "inner_nested", "function_score", "parent", "child",
    "parent_id", "raw"]

def ClauseForm.name {α : Type} : ClauseForm α → String
  | .condition c => c.name
  | .nested .plain .. => "nested"
  | .nested .required .. => "nested_object"
  | .nested (.inner ..) .. => "inner_nested"
  | .functionScore .. => "function_score"
  | .related .parent .. => "parent"
  | .related .child .. => "child"

namespace Clause

def ofCondition (c : Condition) : Clause := { form := .condition c }

def nested (path : String) (clauses : List Clause) : Clause :=
  { form := .nested .plain path clauses }

def alternative (c : Clause) : Clause := { c with combinator := .or }

def negated (c : Clause) : Clause := { c with negate := true }

def setOption (c : Clause) (key : String) (value : Json) : Clause :=
  { c with options := Entries.insert key value c.options }

end Clause

end SearchCompiler
