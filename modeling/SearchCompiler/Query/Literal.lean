import SearchCompiler.Clause.Basic
import SearchCompiler.Query.Basic

/-!
From the literals of a clause list to its query, in one pass. Literals gather in an open run, and a
literal that joins by `or` closes the run in front of it. The literals of a run hold together, and
the query holds when one of its runs does.
-/

namespace SearchCompiler

structure Literal where
  combinator : Combinator
  negated : Bool
  fragment : Json

structure Gathering where
  current : BoolQuery := {}
  closed : List Json := []
  /-- A plain literal weighs one and a negated one two. -/
  weight : Nat := 0
  lastPlain : Option Json := none

namespace Gathering

def closeRun (g : Gathering) : Gathering :=
  if g.current.isEmpty then g
  else { g with current := {}, closed := g.closed ++ [(Query.ofGroups g.current).toJson] }

def add (g : Gathering) (l : Literal) : Gathering :=
  if l.negated then
    { g with
      current := { g.current with mustNot := g.current.mustNot ++ [l.fragment] }
      weight := g.weight + 2 }
  else
    { g with
      current := { g.current with must := g.current.must ++ [l.fragment] }
      weight := g.weight + 1
      lastPlain := some l.fragment }

def push (g : Gathering) (l : Literal) : Gathering :=
  match l.combinator with
  | .and => g.add l
  | .or => g.closeRun.add l

def finish (g : Gathering) : Query :=
  if g.closed.isEmpty then
    if g.current.isEmpty then .matchAll
    else
      match g.weight, g.lastPlain with
      | 1, some fragment => .bare fragment
      | _, _ => .bool g.current
  else .bool { should := g.closeRun.closed }

end Gathering

def Query.ofLiterals (ls : List Literal) : Query := (ls.foldl Gathering.push {}).finish

end SearchCompiler
