import SearchCompiler.Fragment.Boolean

/-!
Compiled queries: everything, a bare fragment, or a boolean query, which can still be added to.
-/

namespace SearchCompiler

structure BoolQuery where
  must : List Json := []
  mustNot : List Json := []
  should : List Json := []
  filter : List Json := []

namespace BoolQuery

instance : Inhabited BoolQuery := ⟨{}⟩

def size (g : BoolQuery) : Nat :=
  g.must.length + g.mustNot.length + g.should.length + g.filter.length

def isEmpty (g : BoolQuery) : Bool := g.size == 0

def onlyMust? (g : BoolQuery) : Option Json :=
  match g.must with
  | [q] => if g.size = 1 then some q else none
  | _ => none

def toJson (g : BoolQuery) : Json := Fragment.bool g.must g.mustNot g.should g.filter

end BoolQuery

inductive Query where
  | matchAll
  | bare (fragment : Json)
  | bool (groups : BoolQuery)

namespace Query

def isMatchAll : Query → Bool
  | .matchAll => true
  | _ => false

def ofGroups (g : BoolQuery) : Query :=
  match g.onlyMust? with
  | some fragment => .bare fragment
  | none => .bool g

def toJson : Query → Json
  | .matchAll => Fragment.matchAll
  | .bare fragment => fragment
  | .bool groups => groups.toJson

end Query

end SearchCompiler
