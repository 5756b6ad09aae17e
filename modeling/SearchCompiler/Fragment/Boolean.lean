import SearchCompiler.Fragment.Basic

/-!
Queries made of other queries: everything, boolean queries, and queries scored by a function.
-/

namespace SearchCompiler.Fragment

def matchAll : Json := body "match_all" []

def bool (must mustNot should filter : List Json) : Json :=
  body "bool" <| Entries.ofList <|
    [("must", must), ("must_not", mustNot), ("should", should), ("filter", filter)].filterMap
      fun g => if g.2.isEmpty then none else some (g.1, .array g.2)

def functionScore (query : Json) (function : String) (params : Json) (options : Options) : Json :=
  body "function_score"
    (withMember function params (withMember "query" query (keep Allowed.functionScore options)))

end SearchCompiler.Fragment
