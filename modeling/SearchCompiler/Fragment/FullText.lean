import SearchCompiler.Fragment.Basic

/-!
Full text queries, which analyse what they search for.
-/

namespace SearchCompiler.Fragment

def words (field : String) (query : Json) (options : Options) : Json :=
  onField "match" field "query" query (keep Allowed.words options)

def phrase (field : String) (query : Json) (options : Options) : Json :=
  onField "match_phrase" field "query" query (keep Allowed.phrase options)

def phraseStart (field : String) (query : Json) (options : Options) : Json :=
  onField "match_phrase_prefix" field "query" query (keep Allowed.phraseStart options)

def multiMatch (fields : List String) (query : Json) (options : Options) : Json :=
  body "multi_match"
    (withMember "fields" (.ofStrings fields)
      (withMember "query" query (keep Allowed.multiMatch options)))

def queryString (fields : List String) (query : String) (options : Options) : Json :=
  let members := withMember "query" (.string query) (keep Allowed.queryString options)
  body "query_string"
    (if fields.isEmpty then members else withMember "fields" (.ofStrings fields) members)

end SearchCompiler.Fragment
