import SearchCompiler.Proofs.Lookup.Parallel
import SearchCompiler.Query.Assertion

/-! What a mapping says never decides whether clauses and sort keys are well formed. -/

namespace SearchCompiler

open Compile (Parallel Steady)

namespace Json

variable {e : Failure}

lemma exists_notADate_of_toMoment {v : Json} (h : v.toMoment = .error e) :
    ∃ text, e = .notADate text := by
  unfold toMoment at h
  split at h
  · dsimp only at h
    split at h
    · cases h
    · exact ⟨_, (Except.error.inj h).symm⟩
  · split at h
    · split at h
      · cases h
      · exact ⟨_, (Except.error.inj h).symm⟩
    · exact ⟨_, (Except.error.inj h).symm⟩
  · exact ⟨_, (Except.error.inj h).symm⟩

lemma exists_notADate_of_map {α : Type} {f : Moment → α} {v : Json}
    (h : v.toMoment.map f = .error e) : ∃ text, e = .notADate text := by
  cases hm : v.toMoment with
  | ok m =>
    rw [hm] at h
    cases h
  | error e' =>
    rw [hm] at h
    obtain rfl := Except.error.inj h
    exact exists_notADate_of_toMoment hm

lemma isByCaller_of_toDayExpression {v : Json} (h : v.toDayExpression = .error e) :
    e.isByCaller = true := by
  obtain ⟨text, rfl⟩ := exists_notADate_of_map h
  rfl

lemma isByCaller_of_toMillis {v : Json} (h : v.toMillis = .error e) : e.isByCaller = true := by
  obtain ⟨text, rfl⟩ := exists_notADate_of_map h
  rfl

end Json

lemma SortKey.compile_steady (k : SortKey) : Steady k.compile := by
  rw [compile]
  cases k.subject with
  | column =>
    apply Parallel.lookUp
    intro field field'
    exact .pure trivial
  | distance point =>
    apply Parallel.read
    intro s s'
    exact .pure trivial

lemma SortKey.compileList_steady (ks : List SortKey) : Steady (compileList ks) := by
  apply Parallel.mono (Parallel.mapM ks compile_steady)
  intro entries entries' _
  trivial

lemma SortPatch.applyAll_parallel (entries entries' : List Json) (ps : List SortPatch) :
    Parallel (fun _ _ => True) (applyAll entries ps) (applyAll entries' ps) := by
  induction ps generalizing entries entries' with
  | nil => exact .pure trivial
  | cons p ps ih =>
    apply Parallel.lookUp
    intro field field'
    exact ih _ _

lemma sortSection_steady (ks : List SortKey) (ps : List SortPatch) :
    Steady (sortSection ks ps) := by
  apply Parallel.bind (SortKey.compileList_steady ks)
  intro entries entries' _
  exact SortPatch.applyAll_parallel entries entries' ps

lemma innerHitsOf_steady (ks : List SortKey) (offset limit : Option UInt64) :
    Steady (innerHitsOf ks offset limit) := by
  apply Parallel.bind (SortKey.compileList_steady ks)
  intro entries entries' _
  exact .pure trivial

namespace Condition

lemma compileComparison_steady (column : String) (operator : Operator) (value : Json)
    (options : Options) : Steady (compileComparison column operator value options) := by
  have hfield {f : String → Assertion} :
      Steady (Compile.lookUp column >>= fun field => pure (f field)) := by
    apply Parallel.lookUp
    intro field field'
    exact .pure trivial
  simp only [compileComparison]
  cases operator with
  | eq | notEq =>
    by_cases hv : value.isNull
    · simp only [hv]
      exact .pure trivial
    · simp only [hv]
      exact hfield
  | like | notLike =>
    cases value with
    | string source => exact hfield
    | _ => exact .fail rfl
  | bound b => exact hfield

lemma compileOnDay_steady (column : String) (operator : Operator) (value : Json)
    (options : Options) : Steady (compileOnDay column operator value options) := by
  apply Parallel.ofRead _ fun _ => Json.isByCaller_of_toDayExpression
  intro day
  cases dayBounds? operator (.string day) with
  | none => exact .fail rfl
  | some bounds =>
    apply Parallel.lookUp
    intro field field'
    exact .pure trivial

lemma compile_steady (options : Options) (c : Condition) : Steady (c.compile options) := by
  cases c with
  | compare column operator value => exact compileComparison_steady column operator value options
  | onDay column operator value => exact compileOnDay_steady column operator value options
  | oneOf | between | term | pattern =>
    apply Parallel.lookUp
    intro field field'
    exact .pure trivial
  | text | script | multiMatch | queryString | present | within | inBox | childOf | raw =>
    exact .pure trivial

end Condition

lemma NestedForm.compile_parallel (form : NestedForm) (path : String) (inner inner' : Query)
    (options : Options) :
    Parallel (fun _ _ => True) (form.compile path inner options)
      (form.compile path inner' options) := by
  cases form with
  | plain => exact .pure trivial
  | required =>
    simp only [compile]
    cases inner.isMatchAll <;> cases inner'.isMatchAll <;> exact .pure trivial
  | inner keys offset limit =>
    apply Parallel.bind (innerHitsOf_steady _ offset limit)
    intro hits hits' _
    exact .pure trivial

namespace Clause

mutual

lemma assertion_steady (scope : Scope) : (c : Clause) → Steady (assertion scope c)
  | ⟨form, _, _, options⟩ => formAssertion_steady scope options form

lemma formAssertion_steady (scope : Scope) (options : Options) :
    (form : ClauseForm Clause) → Steady (formAssertion scope options form)
  | .condition c => Condition.compile_steady options (c.mapColumns scope.column)
  | .nested form _ clauses => by
    apply Parallel.bind (literals_steady _ clauses)
    intro ls ls' _
    apply Parallel.bind (form.compile_parallel _ _ _ options)
    intro fragment fragment' _
    exact .pure trivial
  | .functionScore _ _ clauses => by
    apply Parallel.bind (literals_steady none clauses)
    intro ls ls' _
    exact .pure trivial
  | .related _ _ query [] => by
    apply Parallel.bind (literals_steady none query)
    intro ls ls' _
    exact .pure trivial
  | .related _ _ _ (c :: cs) => by
    apply Parallel.bind (literals_steady none (c :: cs))
    intro ls ls' _
    exact .pure trivial

lemma literals_steady (scope : Scope) : (cs : List Clause) → Steady (literals scope cs)
  | [] => .pure trivial
  | c :: cs => by
    apply Parallel.bind (assertion_steady scope c)
    intro a a' _
    apply Parallel.bind (literals_steady scope cs)
    intro ls ls' _
    exact .pure trivial

end

lemma compileList_steady (cs : List Clause) : Steady (compileList cs) := by
  rw [compileList]
  cases firstOverloaded cs with
  | some type => exact .fail rfl
  | none =>
    apply Parallel.bind (literals_steady none cs)
    intro ls ls' _
    exact .pure trivial

end Clause

end SearchCompiler
