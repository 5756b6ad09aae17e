import SearchCompiler.Fragment.Basic

/-!
Term-level queries, which compare exact values, and the script query.
-/

namespace SearchCompiler.Fragment

def term (field : String) (value : Json) (options : Options) : Json :=
  onField "term" field "value" value (keep Allowed.term options)

def terms (field : String) (values : List Json) (options : Options) : Json :=
  body "terms" (withMember field (.array values) (keep Allowed.terms options))

def range (field : String) (bounds options : Options) : Json :=
  body "range" [(field, .object (Entries.insertAll bounds (keep Allowed.range options)))]

def wildcard (field pattern : String) (options : Options) : Json :=
  body "wildcard"
    [(field, .object (withMember "value" (.string pattern) (keep Allowed.wildcard options)))]

def regexp (field pattern : String) (options : Options) : Json :=
  onField "regexp" field "value" (.string pattern) (keep Allowed.regexp options)

def leading (field text : String) (options : Options) : Json :=
  onField "prefix" field "value" (.string text) (keep Allowed.leading options)

def fuzzy (field : String) (value : Json) (options : Options) : Json :=
  onField "fuzzy" field "value" value (keep Allowed.fuzzy options)

def present (field : String) (options : Options) : Json :=
  body "exists" (withMember "field" (.string field) (keep Allowed.present options))

def script (source : String) (options : Options) : Json :=
  let inner := withMember "source" (.string source) (keep Allowed.scriptBody options)
  body "script" (withMember "script" (.object inner) (keep Allowed.scriptQuery options))

end SearchCompiler.Fragment
