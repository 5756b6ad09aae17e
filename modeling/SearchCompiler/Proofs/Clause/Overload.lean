import SearchCompiler.Proofs.Clause.Parallel
import SearchCompiler.Proofs.Clause.Tree
import SearchCompiler.Proofs.Lookup.Faults

/-! The check for clauses about related documents that ask both by a query and by a filter finds the
first one of a tree. Nothing else that goes wrong is reported as such a clause. -/

namespace SearchCompiler

open Compile (FailsWithin)

namespace Clause

def Overloads (c : Clause) (type : String) : Prop :=
  ∃ relative query filter, c.form = .related relative type query filter ∧ query ≠ [] ∧ filter ≠ []

def overload? (c : Clause) : Option String :=
  match c.form with
  | .related _ type query filter => if !query.isEmpty && !filter.isEmpty then some type else none
  | _ => none

lemma overload?_eq_some {c : Clause} {type : String} :
    c.overload? = some type ↔ c.Overloads type := by
  obtain ⟨form, combinator, negate, options⟩ := c
  cases form with
  | related relative type' query filter =>
    simp only [overload?, Overloads, Option.ite_none_right_eq_some, Option.some.injEq,
      Bool.and_eq_true, Bool.not_eq_true', List.isEmpty_eq_false_iff]
    constructor
    · rintro ⟨hne, rfl⟩
      exact ⟨relative, query, filter, rfl, hne⟩
    · rintro ⟨_, _, _, hform, hne⟩
      cases hform
      exact ⟨hne, rfl⟩
  | condition | nested | functionScore => simp [overload?, Overloads]

mutual

lemma overloaded_eq_findSome? : (c : Clause) → overloaded c = c.preorder.findSome? overload?
  | ⟨.condition _, _, _, _⟩ => rfl
  | ⟨.nested _ _ clauses, _, _, _⟩ => firstOverloaded_eq_findSome? clauses
  | ⟨.functionScore _ _ clauses, _, _, _⟩ => firstOverloaded_eq_findSome? clauses
  | ⟨.related _ type query filter, _, _, _⟩ => by
    rw [overloaded, overloadedIn, firstOverloaded_eq_findSome? query,
      firstOverloaded_eq_findSome? filter, Option.orElse_eq_orElse, Option.orElse_eq_or,
      ← List.findSome?_append, preorder, formPreorder, List.findSome?_cons]
    simp only [overload?]
    split <;> rfl

lemma firstOverloaded_eq_findSome? : (cs : List Clause) →
    firstOverloaded cs = (listPreorder cs).findSome? overload?
  | [] => rfl
  | c :: cs => by
    rw [firstOverloaded, overloaded_eq_findSome? c, firstOverloaded_eq_findSome? cs, listPreorder,
      List.findSome?_append, Option.orElse_eq_orElse, Option.orElse_eq_or]

end

variable {cs : List Clause}

lemma firstOverloaded_eq_none :
    firstOverloaded cs = none ↔ ∀ c type, Occurs cs c → ¬ c.Overloads type := by
  rw [firstOverloaded_eq_findSome?, List.findSome?_eq_none_iff]
  simp only [mem_listPreorder_iff_occurs, Option.eq_none_iff_forall_ne_some, ne_eq,
    overload?_eq_some]
  exact ⟨fun h c type hc => h c hc type, fun h c hc type => h c type hc⟩

lemma firstOverloaded_eq_some {type : String} :
    firstOverloaded cs = some type ↔ ∃ before c after, listPreorder cs = before ++ c :: after ∧
      c.Overloads type ∧ ∀ b ∈ before, ∀ type, ¬ b.Overloads type := by
  simp only [firstOverloaded_eq_findSome?, List.findSome?_eq_some_iff, overload?_eq_some,
    Option.eq_none_iff_forall_ne_some, ne_eq]

end Clause

def Failure.isOverload : Failure → Bool
  | .overloadedRelation _ => true
  | _ => false

def Failure.Unrelated (e : Failure) : Prop := e.isOverload = false

lemma SortKey.compile_unrelated (k : SortKey) : FailsWithin Failure.Unrelated k.compile := by
  rw [compile]
  cases k.subject with
  | column => exact (FailsWithin.lookUp k.column).bind fun field => .pure _
  | distance point => exact .read fun s => .pure _

lemma innerHitsOf_unrelated (ks : List SortKey) (offset limit : Option UInt64) :
    FailsWithin Failure.Unrelated (innerHitsOf ks offset limit) :=
  (FailsWithin.mapM ks SortKey.compile_unrelated).bind fun _ => .pure _

namespace Condition

lemma compileComparison_unrelated (column : String) (operator : Operator) (value : Json)
    (options : Options) :
    FailsWithin Failure.Unrelated (compileComparison column operator value options) := by
  have hfield {f : String → Assertion} : FailsWithin Failure.Unrelated
      (Compile.lookUp column >>= fun field => pure (f field)) :=
    (FailsWithin.lookUp column).bind fun field => .pure (f field)
  simp only [compileComparison]
  cases operator with
  | eq | notEq =>
    by_cases hv : value.isNull
    · simp only [hv]
      exact .pure _
    · simp only [hv]
      exact hfield
  | like | notLike =>
    cases value with
    | string source => exact hfield
    | _ => exact .fail rfl
  | bound b => exact hfield

lemma compileOnDay_unrelated (column : String) (operator : Operator) (value : Json)
    (options : Options) :
    FailsWithin Failure.Unrelated (compileOnDay column operator value options) := by
  have hread : FailsWithin Failure.Unrelated (Compile.ofRead value.toDayExpression) := by
    refine .ofRead fun e he => ?_
    obtain ⟨text, rfl⟩ := Json.exists_notADate_of_map he
    rfl
  refine hread.bind fun day => ?_
  cases dayBounds? operator (.string day) with
  | none => exact .fail rfl
  | some bounds => exact (FailsWithin.lookUp column).bind fun field => .pure _

lemma compile_unrelated (options : Options) (c : Condition) :
    FailsWithin Failure.Unrelated (c.compile options) := by
  cases c with
  | compare column operator value =>
    exact compileComparison_unrelated column operator value options
  | onDay column operator value => exact compileOnDay_unrelated column operator value options
  | oneOf | between | term | pattern =>
    exact (FailsWithin.lookUp _).bind fun field => .pure _
  | text | script | multiMatch | queryString | present | within | inBox | childOf | raw =>
    exact .pure _

end Condition

lemma NestedForm.compile_unrelated (form : NestedForm) (path : String) (inner : Query)
    (options : Options) : FailsWithin Failure.Unrelated (form.compile path inner options) := by
  cases form with
  | plain => exact .pure _
  | required =>
    simp only [compile]
    cases inner.isMatchAll <;> exact .pure _
  | inner keys offset limit =>
    exact (innerHitsOf_unrelated _ offset limit).bind fun hits => .pure _

namespace Clause

mutual

lemma assertion_unrelated (scope : Scope) : (c : Clause) →
    FailsWithin Failure.Unrelated (assertion scope c)
  | ⟨form, _, _, options⟩ => formAssertion_unrelated scope options form

lemma formAssertion_unrelated (scope : Scope) (options : Options) :
    (form : ClauseForm Clause) → FailsWithin Failure.Unrelated (formAssertion scope options form)
  | .condition c => Condition.compile_unrelated options (c.mapColumns scope.column)
  | .nested form _ clauses =>
    (literals_unrelated _ clauses).bind fun _ =>
      (form.compile_unrelated _ _ options).bind fun _ => .pure _
  | .functionScore _ _ clauses => (literals_unrelated none clauses).bind fun _ => .pure _
  | .related _ _ query [] => (literals_unrelated none query).bind fun _ => .pure _
  | .related _ _ _ (c :: cs) => (literals_unrelated none (c :: cs)).bind fun _ => .pure _

lemma literals_unrelated (scope : Scope) : (cs : List Clause) →
    FailsWithin Failure.Unrelated (literals scope cs)
  | [] => .pure []
  | c :: cs =>
    (assertion_unrelated scope c).bind fun _ => (literals_unrelated scope cs).bind fun _ => .pure _

end

end Clause

end SearchCompiler
