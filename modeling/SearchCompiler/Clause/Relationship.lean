import SearchCompiler.Clause.Basic

/-!
Clauses about a related document ask by a query or by a filter, never by both. The check looks at a
whole tree: a clause in front of its sub-clauses, and its query in front of its filter.
-/

namespace SearchCompiler.Clause

mutual

def overloaded : Clause → Option String
  | ⟨form, _, _, _⟩ => overloadedIn form

def overloadedIn : ClauseForm Clause → Option String
  | .condition _ => none
  | .nested _ _ clauses | .functionScore _ _ clauses => firstOverloaded clauses
  | .related _ type query filter =>
    if !query.isEmpty && !filter.isEmpty then some type
    else firstOverloaded query <|> firstOverloaded filter

def firstOverloaded : List Clause → Option String
  | [] => none
  | c :: cs => overloaded c <|> firstOverloaded cs

end

end SearchCompiler.Clause
