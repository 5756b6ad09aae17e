import SearchCompiler.Clause.Relationship
import SearchCompiler.Clause.Scope
import SearchCompiler.Date.Value
import SearchCompiler.Fragment.FullText
import SearchCompiler.Fragment.TermLevel
import SearchCompiler.Query.Literal
import SearchCompiler.Query.Wildcard
import SearchCompiler.Sorting.Section

/-!
Assertions: the fragment of a clause, which states the clause or its complement. The assertions of a
clause list become literals, and the literals a query. Columns are scoped where they are compiled: a
nested scope passes its path to its clauses, every other group starts without one.
-/

namespace SearchCompiler

structure Assertion where
  fragment : Json
  inverted : Bool := false

namespace Condition

def compileComparison (column : String) (operator : Operator) (value : Json) (options : Options) :
    Compile Assertion := do
  let inverted := operator.isComplement
  match operator with
  | .eq | .notEq =>
    if value.isNull then return ⟨Fragment.present column options, !inverted⟩
    let field ← Compile.lookUp column
    return ⟨Fragment.term field value options, inverted⟩
  | .like | .notLike =>
    match value with
    | .string source =>
      let field ← Compile.lookUp column
      return ⟨Fragment.wildcard field (Wildcard.ofLikeText source) options, inverted⟩
    | _ => Compile.fail (.descriptor (.textNeeded operator column))
  | .bound b =>
    let field ← Compile.lookUp column
    return ⟨Fragment.range field [(b.member, value)] options, inverted⟩

def dayBounds? (operator : Operator) (day : Json) : Option Options :=
  match operator with
  | .eq | .notEq => some [("gte", day), ("lte", day)]
  | .bound b => some [(b.member, day)]
  | .like | .notLike => none

def compileOnDay (column : String) (operator : Operator) (value : Json) (options : Options) :
    Compile Assertion := do
  let day ← Compile.ofRead value.toDayExpression
  match dayBounds? operator (.string day) with
  | none => Compile.fail (.operator (.onDate operator column))
  | some bounds =>
    let field ← Compile.lookUp column
    return ⟨Fragment.range field bounds options, operator.isComplement⟩

def textFragment (style : TextStyle) (column : String) (value : Json) (options : Options) : Json :=
  match style with
  | .words => Fragment.words column value options
  | .phrase => Fragment.phrase column value options
  | .phraseStart => Fragment.phraseStart column value options
  | .fuzzy => Fragment.fuzzy column value options

def patternFragment (style : PatternStyle) (field pattern : String) (options : Options) : Json :=
  match style with
  | .regex => Fragment.regexp field pattern options
  | .start => Fragment.leading field pattern options

def compile (options : Options) : Condition → Compile Assertion
  | .compare column operator value => compileComparison column operator value options
  | .onDay column operator value => compileOnDay column operator value options
  | .oneOf column values => do
    return ⟨Fragment.terms (← Compile.lookUp column) values options, false⟩
  | .between column low high => do
    let field ← Compile.lookUp column
    return ⟨Fragment.range field [("gte", low), ("lte", high)] options, false⟩
  | .text style column value => return ⟨textFragment style column value options, false⟩
  | .term column value => do
    return ⟨Fragment.term (← Compile.lookUp column) value options, false⟩
  | .pattern style column source => do
    return ⟨patternFragment style (← Compile.lookUp column) source options, false⟩
  | .script source => return ⟨Fragment.script source options, false⟩
  | .multiMatch columns value => return ⟨Fragment.multiMatch columns value options, false⟩
  | .queryString columns query => return ⟨Fragment.queryString columns query options, false⟩
  | .present column => return ⟨Fragment.present column options, false⟩
  | .within column point distance =>
    return ⟨Fragment.within column point distance options, false⟩
  | .inBox column topLeft bottomRight =>
    return ⟨Fragment.inBox column topLeft bottomRight options, false⟩
  | .childOf childType id => return ⟨Fragment.parentId childType id options, false⟩
  | .raw fragment => return ⟨fragment, false⟩

end Condition

namespace NestedForm

def compile (form : NestedForm) (path : String) (inner : Query) (options : Options) :
    Compile Json := do
  match form with
  | .plain => return Fragment.nested path inner.toJson none options
  | .required =>
    if inner.isMatchAll then return Fragment.present path options
    return Fragment.nested path inner.toJson none options
  | .inner keys offset limit =>
    let placed := keys.map fun k => { k with column := qualified path k.column }
    let hits ← innerHitsOf placed offset limit
    return Fragment.nested path inner.toJson (some hits) options

end NestedForm

def Relative.fragment (relative : Relative) (type : String) (query : Json) (options : Options) :
    Json :=
  match relative with
  | .parent => Fragment.hasParent type query options
  | .child => Fragment.hasChild type query options

namespace Clause

mutual

def assertion (scope : Scope) : Clause → Compile Assertion
  | ⟨form, _, _, options⟩ => formAssertion scope options form

def formAssertion (scope : Scope) (options : Options) : ClauseForm Clause → Compile Assertion
  | .condition c => (c.mapColumns scope.column).compile options
  | .nested form path clauses => do
    let path := scope.column path
    let inner := Query.ofLiterals (← literals (some path) clauses)
    return ⟨← form.compile path inner options, false⟩
  | .functionScore function params clauses => do
    let inner := Query.ofLiterals (← literals none clauses)
    return ⟨Fragment.functionScore inner.toJson function params options, false⟩
  | .related relative type query filter => do
    if filter.isEmpty then
      let inner := Query.ofLiterals (← literals none query)
      return ⟨relative.fragment type inner.toJson options, false⟩
    let inner := Query.ofLiterals (← literals none filter)
    return ⟨relative.fragment type (Fragment.bool [] [] [] [inner.toJson]) options, false⟩

def literals (scope : Scope) : List Clause → Compile (List Literal)
  | [] => return []
  | c :: cs => do
    let a ← assertion scope c
    let ls ← literals scope cs
    return ⟨c.combinator, c.negate != a.inverted, a.fragment⟩ :: ls

end

def compileList (clauses : List Clause) : Compile Query := do
  match firstOverloaded clauses with
  | some type => Compile.fail (.overloadedRelation type)
  | none => return Query.ofLiterals (← literals none clauses)

end Clause

end SearchCompiler
