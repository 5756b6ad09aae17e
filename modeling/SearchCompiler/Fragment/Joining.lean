import SearchCompiler.Fragment.Basic
import SearchCompiler.Record

/-!
Joining queries, which ask a query of nested or related documents, and what they return of those.
-/

namespace SearchCompiler.Fragment

def nested (path : String) (query : Json) (innerHits : Option Json) (options : Options) : Json :=
  let members := withMember "query" query
    (withMember "path" (.string path) (keep Allowed.nested options))
  body "nested" <|
    match innerHits with
    | some hits => withMember "inner_hits" hits members
    | none => members

def hasParent (parentType : String) (query : Json) (options : Options) : Json :=
  body "has_parent"
    (withMember "query" query
      (withMember "parent_type" (.string parentType) (keep Allowed.hasParent options)))

def hasChild (childType : String) (query : Json) (options : Options) : Json :=
  body "has_child"
    (withMember "query" query
      (withMember "type" (.string childType) (keep Allowed.hasChild options)))

def parentId (childType : String) (id : Json) (options : Options) : Json :=
  body "parent_id"
    (withMember "id" id (withMember "type" (.string childType) (keep Allowed.parentId options)))

def innerHits (sort : List Json) (start size : Option UInt64) : Json :=
  .ofMembers [
    ("sort", if sort.isEmpty then none else some (.array sort)),
    ("from", start.map .ofUInt64),
    ("size", size.map .ofUInt64)]

end SearchCompiler.Fragment
