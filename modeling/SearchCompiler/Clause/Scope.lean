import SearchCompiler.Clause.Basic
import SearchCompiler.Index.FieldTable

/-!
Columns inside a nested scope. A column is named absolutely, below the path of its scope, or
relative to that path; scoping turns either into the absolute name.
-/

namespace SearchCompiler

def qualified (path column : String) : String :=
  if covers path column then column else path ++ "." ++ column

abbrev Scope := Option String

def Scope.column (scope : Scope) (column : String) : String :=
  match scope with
  | some path => qualified path column
  | none => column

def Condition.mapColumns (f : String → String) : Condition → Condition
  | .compare column operator value => .compare (f column) operator value
  | .oneOf column values => .oneOf (f column) values
  | .between column low high => .between (f column) low high
  | .text style column value => .text style (f column) value
  | .term column value => .term (f column) value
  | .pattern style column source => .pattern style (f column) source
  | .script source => .script source
  | .multiMatch columns value => .multiMatch (columns.map f) value
  | .queryString columns query => .queryString (columns.map f) query
  | .present column => .present (f column)
  | .onDay column operator value => .onDay (f column) operator value
  | .within column point distance => .within (f column) point distance
  | .inBox column topLeft bottomRight => .inBox (f column) topLeft bottomRight
  | .childOf childType id => .childOf childType id
  | .raw fragment => .raw fragment

def ClauseForm.mapColumns {α : Type} (f : String → String) : ClauseForm α → ClauseForm α
  | .condition c => .condition (c.mapColumns f)
  | .nested form path clauses => .nested form (f path) clauses
  | .functionScore function params clauses => .functionScore function params clauses
  | .related relative type query filter => .related relative type query filter

def Clause.inScope (c : Clause) (path : String) : Clause :=
  { c with form := c.form.mapColumns (qualified path) }

end SearchCompiler
