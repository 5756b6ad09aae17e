import SearchCompiler.Proofs.Clause.Leaves
import SearchCompiler.Proofs.Clause.Tree
import SearchCompiler.Proofs.Index.Subtree

/-! A tree of clauses compiles as it is written, once every column in it has its absolute name. Of
the clauses in a nested scope, those right inside it have all their columns below its path; behind
a function that scores, columns are those of the root again. -/

namespace SearchCompiler

lemma covers_qualified (path column : String) : covers path (qualified path column) = true := by
  rw [qualified]
  split
  · assumption
  · exact covers_iff.mpr (.inr ⟨column, rfl⟩)

def Condition.columns : Condition → List String
  | .compare column .. | .oneOf column .. | .between column .. | .text _ column _ | .term column _
  | .pattern _ column _ | .present column | .onDay column .. | .within column ..
  | .inBox column .. => [column]
  | .multiMatch columns _ | .queryString columns _ => columns
  | .script _ | .childOf .. | .raw _ => []

lemma Condition.columns_mapColumns (f : String → String) (c : Condition) :
    (c.mapColumns f).columns = c.columns.map f := by
  cases c <;> rfl

namespace Clause

def columns (c : Clause) : List String :=
  match c.form with
  | .condition c => c.columns
  | .nested _ path _ => [path]
  | .functionScore .. | .related .. => []

mutual

def absolute (scope : Scope) : Clause → Clause
  | ⟨form, combinator, negate, options⟩ => ⟨formAbsolute scope form, combinator, negate, options⟩

def formAbsolute (scope : Scope) : ClauseForm Clause → ClauseForm Clause
  | .condition c => .condition (c.mapColumns scope.column)
  | .nested form path clauses =>
    .nested form (scope.column path) (listAbsolute (some (scope.column path)) clauses)
  | .functionScore function params clauses =>
    .functionScore function params (listAbsolute none clauses)
  | .related relative type query filter =>
    .related relative type (listAbsolute none query) (listAbsolute none filter)

def listAbsolute (scope : Scope) : List Clause → List Clause
  | [] => []
  | c :: cs => absolute scope c :: listAbsolute scope cs

end

mutual

def assertionAsWritten : Clause → Compile Assertion
  | ⟨form, _, _, options⟩ => formAsWritten options form

def formAsWritten (options : Options) : ClauseForm Clause → Compile Assertion
  | .condition c => c.compile options
  | .nested form path clauses => do
    let inner := Query.ofLiterals (← literalsAsWritten clauses)
    return ⟨← form.compile path inner options, false⟩
  | .functionScore function params clauses => do
    let inner := Query.ofLiterals (← literalsAsWritten clauses)
    return ⟨Fragment.functionScore inner.toJson function params options, false⟩
  | .related relative type query filter => do
    if filter.isEmpty then
      let inner := Query.ofLiterals (← literalsAsWritten query)
      return ⟨relative.fragment type inner.toJson options, false⟩
    let inner := Query.ofLiterals (← literalsAsWritten filter)
    return ⟨relative.fragment type (Fragment.bool [] [] [] [inner.toJson]) options, false⟩

def literalsAsWritten : List Clause → Compile (List Literal)
  | [] => return []
  | c :: cs => do
    let a ← assertionAsWritten c
    let ls ← literalsAsWritten cs
    return ⟨c.combinator, c.negate != a.inverted, a.fragment⟩ :: ls

end

def compileAsWritten (clauses : List Clause) : Compile Query := do
  match firstOverloaded clauses with
  | some type => Compile.fail (.overloadedRelation type)
  | none => return Query.ofLiterals (← literalsAsWritten clauses)

lemma listAbsolute_eq_map (scope : Scope) (cs : List Clause) :
    listAbsolute scope cs = cs.map (absolute scope) := by
  induction cs with
  | nil => rfl
  | cons c cs ih => rw [listAbsolute, ih, List.map_cons]

lemma isEmpty_listAbsolute (scope : Scope) (cs : List Clause) :
    (listAbsolute scope cs).isEmpty = cs.isEmpty := by
  cases cs <;> rfl

mutual

lemma assertionAsWritten_absolute (scope : Scope) : (c : Clause) →
    assertionAsWritten (c.absolute scope) = assertion scope c
  | ⟨form, _, _, options⟩ => formAsWritten_formAbsolute scope options form

lemma formAsWritten_formAbsolute (scope : Scope) (options : Options) : (form : ClauseForm Clause) →
    formAsWritten options (formAbsolute scope form) = formAssertion scope options form
  | .condition _ => rfl
  | .nested form path clauses => by
    rw [formAbsolute, formAsWritten, formAssertion, literalsAsWritten_listAbsolute]
  | .functionScore function params clauses => by
    rw [formAbsolute, formAsWritten, formAssertion, literalsAsWritten_listAbsolute]
  | .related relative type query filter => by
    rw [formAbsolute, formAsWritten, formAssertion, literalsAsWritten_listAbsolute,
      literalsAsWritten_listAbsolute, isEmpty_listAbsolute]

lemma literalsAsWritten_listAbsolute (scope : Scope) : (cs : List Clause) →
    literalsAsWritten (listAbsolute scope cs) = literals scope cs
  | [] => rfl
  | ⟨form, combinator, negate, options⟩ :: cs => by
    rw [listAbsolute, literalsAsWritten, literals, assertionAsWritten_absolute,
      literalsAsWritten_listAbsolute]
    rfl

end

mutual

lemma overloaded_absolute (scope : Scope) : (c : Clause) →
    overloaded (c.absolute scope) = overloaded c
  | ⟨form, _, _, _⟩ => overloadedIn_formAbsolute scope form

lemma overloadedIn_formAbsolute (scope : Scope) : (form : ClauseForm Clause) →
    overloadedIn (formAbsolute scope form) = overloadedIn form
  | .condition _ => rfl
  | .nested _ _ clauses => firstOverloaded_listAbsolute _ clauses
  | .functionScore _ _ clauses => firstOverloaded_listAbsolute none clauses
  | .related relative type query filter => by
    rw [formAbsolute, overloadedIn, overloadedIn, isEmpty_listAbsolute, isEmpty_listAbsolute,
      firstOverloaded_listAbsolute, firstOverloaded_listAbsolute]

lemma firstOverloaded_listAbsolute (scope : Scope) : (cs : List Clause) →
    firstOverloaded (listAbsolute scope cs) = firstOverloaded cs
  | [] => rfl
  | c :: cs => by
    rw [listAbsolute, firstOverloaded, firstOverloaded, overloaded_absolute,
      firstOverloaded_listAbsolute]

end

/-- Scoping is a matter of names: the tree of absolute names compiles the same with no scoping. -/
lemma compileAsWritten_listAbsolute (cs : List Clause) :
    compileAsWritten (listAbsolute none cs) = compileList cs := by
  rw [compileAsWritten, compileList, firstOverloaded_listAbsolute]
  cases firstOverloaded cs with
  | some type => rfl
  | none =>
    exact congrArg (· >>= fun ls => pure (Query.ofLiterals ls))
      (literalsAsWritten_listAbsolute none cs)

lemma columns_absolute (scope : Scope) (c : Clause) :
    (c.absolute scope).columns = c.columns.map scope.column := by
  obtain ⟨form, combinator, negate, options⟩ := c
  cases form with
  | condition c => exact c.columns_mapColumns scope.column
  | nested | functionScore | related => rfl

lemma exists_scope_of_mem_parts {scope : Scope} {c d : Clause} (h : d ∈ (c.absolute scope).parts) :
    ∃ scope' b, d = absolute scope' b := by
  have hmem {scope' : Scope} {cs : List Clause} (h : d ∈ listAbsolute scope' cs) :
      ∃ b, d = absolute scope' b := by
    rw [listAbsolute_eq_map] at h
    obtain ⟨b, -, hb⟩ := List.mem_map.mp h
    exact ⟨b, hb.symm⟩
  obtain ⟨form, combinator, negate, options⟩ := c
  cases form with
  | condition c => cases h
  | nested form path clauses => exact ⟨_, hmem h⟩
  | functionScore function params clauses => exact ⟨none, hmem h⟩
  | related relative type query filter =>
    rcases List.mem_append.mp h with h | h
    · exact ⟨none, hmem h⟩
    · exact ⟨none, hmem h⟩

lemma Occurs.exists_scope {cs : List Clause} {d : Clause} (h : Occurs (listAbsolute none cs) d) :
    ∃ scope c, d = absolute scope c := by
  induction h with
  | top hd =>
    rw [listAbsolute_eq_map] at hd
    obtain ⟨c, -, rfl⟩ := List.mem_map.mp hd
    exact ⟨none, c, rfl⟩
  | inside _ hd ih =>
    obtain ⟨scope, c, rfl⟩ := ih
    exact exists_scope_of_mem_parts hd

structure Scopes (cs : List Clause) : Prop where
  compiles : compileList cs = compileAsWritten (listAbsolute none cs)
  covered : ∀ c form path clauses, Occurs (listAbsolute none cs) c →
    c.form = .nested form path clauses →
      ∀ d ∈ clauses, ∀ column ∈ d.columns, covers path column = true

theorem compileList_scopes (cs : List Clause) : Scopes cs := by
  refine ⟨(compileAsWritten_listAbsolute cs).symm, ?_⟩
  intro c form path clauses hc hform d hd column hcolumn
  obtain ⟨scope, b, rfl⟩ := hc.exists_scope
  obtain ⟨form', combinator, negate, options⟩ := b
  cases form' with
  | nested form' path' clauses' =>
    obtain ⟨-, hpath, rfl⟩ := ClauseForm.nested.inj hform
    rw [listAbsolute_eq_map] at hd
    obtain ⟨e, -, rfl⟩ := List.mem_map.mp hd
    rw [columns_absolute] at hcolumn
    obtain ⟨column', -, rfl⟩ := List.mem_map.mp hcolumn
    rw [hpath]
    exact covers_qualified path column'
  | condition | functionScore | related => cases hform

inductive Below (c : Clause) : Clause → Prop
  | part {d} : d ∈ c.parts → Below c d
  | behind {b d function params clauses} : Below c b →
      b.form = .functionScore function params clauses → d ∈ clauses → Below c d

def scored : List Clause := [
  .nested "comments" [
    { form := .functionScore "field_value_factor" (.single "field" (.string "likes"))
        [.ofCondition (.text .words "author" (.string "bob"))] }]]

/-- The author is compiled as a column of the root, and not of the comments. -/
theorem compileList_scored_not_covered :
    Context.people.result (compileList scored) = .ok (.bare (Fragment.nested "comments"
      (Fragment.functionScore (Fragment.words "author" (.string "bob") []) "field_value_factor"
        (.single "field" (.string "likes")) []) none [])) ∧
    ¬ ∀ c form path clauses, Occurs (listAbsolute none scored) c →
      c.form = .nested form path clauses →
        ∀ d, Below c d → ∀ column ∈ d.columns, covers path column = true := by
  refine ⟨rfl, fun h => ?_⟩
  have hmatch := h _ .plain "comments" _ (.top (List.mem_singleton.mpr rfl)) rfl _
    (.behind (.part (List.mem_singleton.mpr rfl)) rfl (List.mem_singleton.mpr rfl))
    "author" (List.mem_singleton.mpr rfl)
  exact absurd hmatch (by decide)

end Clause

end SearchCompiler
