import SearchCompiler.Proofs.Fragment.Options
import SearchCompiler.Proofs.Query.Runs
import SearchCompiler.Query.Assertion

/-! Clauses and sort keys compile as they do without the options that their fragments do not
take. -/

namespace SearchCompiler

open Fragment

namespace SortKey

def allowed (k : SortKey) : List String :=
  match k.subject with
  | .column => Allowed.sortByField
  | .distance _ => Allowed.sortByDistance

def stripped (k : SortKey) : SortKey := { k with options := keep k.allowed k.options }

lemma compile_stripped (k : SortKey) : k.stripped.compile = k.compile := by
  obtain ⟨column, direction, subject, options⟩ := k
  cases subject with
  | column => simp only [compile, stripped, allowed, keep_keep]
  | distance point => simp only [compile, stripped, allowed, distanceSort, keep_keep]

lemma compileList_stripped (ks : List SortKey) :
    compileList (ks.map stripped) = compileList ks := by
  rw [compileList, compileList, List.mapM_map]
  exact congrArg ks.mapM (funext compile_stripped)

end SortKey

namespace SortPatch

def stripped (p : SortPatch) : SortPatch :=
  { p with settings := keep Allowed.sortPatch p.settings }

lemma applyAll_stripped (entries : List Json) (ps : List SortPatch) :
    applyAll entries (ps.map stripped) = applyAll entries ps := by
  induction ps generalizing entries with
  | nil => rfl
  | cons p ps ih => simp only [List.map_cons, applyAll, stripped, keep_keep, ih]

end SortPatch

lemma sortSection_stripped (ks : List SortKey) (ps : List SortPatch) :
    sortSection (ks.map SortKey.stripped) (ps.map SortPatch.stripped) = sortSection ks ps := by
  simp only [sortSection, SortKey.compileList_stripped, SortPatch.applyAll_stripped]

lemma innerHitsOf_stripped (ks : List SortKey) (offset limit : Option UInt64) :
    innerHitsOf (ks.map SortKey.stripped) offset limit = innerHitsOf ks offset limit := by
  simp only [innerHitsOf, SortKey.compileList_stripped]

namespace Condition

def comparisonAllowed (operator : Operator) (value : Json) : List String :=
  match operator with
  | .eq | .notEq => if value.isNull then Allowed.present else Allowed.term
  | .like | .notLike => Allowed.wildcard
  | .bound _ => Allowed.range

def textAllowed : TextStyle → List String
  | .words => Allowed.words
  | .phrase => Allowed.phrase
  | .phraseStart => Allowed.phraseStart
  | .fuzzy => Allowed.fuzzy

def patternAllowed : PatternStyle → List String
  | .regex => Allowed.regexp
  | .start => Allowed.leading

def allowed : Condition → List String
  | .compare _ operator value => comparisonAllowed operator value
  | .oneOf .. => Allowed.terms
  | .between .. | .onDay .. => Allowed.range
  | .text style .. => textAllowed style
  | .term .. => Allowed.term
  | .pattern style .. => patternAllowed style
  | .script _ => Allowed.scriptQuery ++ Allowed.scriptBody
  | .multiMatch .. => Allowed.multiMatch
  | .queryString .. => Allowed.queryString
  | .present _ => Allowed.present
  | .within .. => Allowed.distance
  | .inBox .. => Allowed.box
  | .childOf .. => Allowed.parentId
  | .raw _ => []

lemma allowed_mapColumns (f : String → String) (c : Condition) :
    (c.mapColumns f).allowed = c.allowed := by
  cases c <;> rfl

lemma compileComparison_keep (column : String) (operator : Operator) (value : Json)
    (options : Options) :
    compileComparison column operator value (keep (comparisonAllowed operator value) options) =
      compileComparison column operator value options := by
  simp only [compileComparison]
  cases operator with
  | eq | notEq =>
    by_cases hv : value.isNull
    · simp only [comparisonAllowed, hv, if_true, Fragment.present, keep_keep]
    · simp only [comparisonAllowed, hv, Bool.false_eq_true, if_false, Fragment.term, keep_keep]
  | like | notLike => simp only [comparisonAllowed, wildcard, keep_keep]
  | bound b => simp only [comparisonAllowed, range, keep_keep]

lemma compile_keep (c : Condition) (options : Options) :
    c.compile (keep c.allowed options) = c.compile options := by
  cases c with
  | compare column operator value => exact compileComparison_keep column operator value options
  | oneOf => simp only [compile, allowed, terms, keep_keep]
  | between | onDay => simp only [compile, compileOnDay, allowed, range, keep_keep]
  | text style =>
    cases style <;> simp only [compile, allowed, textAllowed, textFragment, words, phrase,
      phraseStart, fuzzy, keep_keep]
  | term => simp only [compile, allowed, Fragment.term, keep_keep]
  | pattern style =>
    cases style <;>
      simp only [compile, allowed, patternAllowed, patternFragment, regexp, leading, keep_keep]
  | script source =>
    have hquery : Allowed.scriptQuery ⊆ Allowed.scriptQuery ++ Allowed.scriptBody :=
      List.subset_append_left _ _
    have hbody : Allowed.scriptBody ⊆ Allowed.scriptQuery ++ Allowed.scriptBody :=
      List.subset_append_right _ _
    simp only [compile, allowed, Fragment.script, keep_of_subset hquery, keep_of_subset hbody]
  | multiMatch => simp only [compile, allowed, Fragment.multiMatch, keep_keep]
  | queryString => simp only [compile, allowed, Fragment.queryString, keep_keep]
  | present => simp only [compile, allowed, Fragment.present, keep_keep]
  | within => simp only [compile, allowed, Fragment.within, keep_keep]
  | inBox => simp only [compile, allowed, Fragment.inBox, keep_keep]
  | childOf => simp only [compile, allowed, parentId, keep_keep]
  | raw => rfl

end Condition

namespace NestedForm

def stripped : NestedForm → NestedForm
  | .plain => .plain
  | .required => .required
  | .inner keys offset limit => .inner (keys.map SortKey.stripped) offset limit

def allowed (form : NestedForm) (bare : Bool) : List String :=
  match form with
  | .required => if bare then Allowed.present else Allowed.nested
  | .plain | .inner .. => Allowed.nested

lemma compile_stripped (form : NestedForm) (path : String) (inner : Query) (options : Options) :
    form.stripped.compile path inner (keep (form.allowed inner.isMatchAll) options) =
      form.compile path inner options := by
  cases form with
  | plain => simp only [stripped, allowed, compile, nested, keep_keep]
  | required =>
    cases hm : inner.isMatchAll with
    | true => simp only [stripped, allowed, compile, hm, if_true, present, keep_keep]
    | false =>
      simp only [stripped, allowed, compile, hm, Bool.false_eq_true, if_false, nested, keep_keep]
  | inner keys offset limit =>
    have hplaced : (keys.map SortKey.stripped).map
        (fun k => { k with column := qualified path k.column }) =
        (keys.map fun k => { k with column := qualified path k.column }).map SortKey.stripped := by
      rw [List.map_map, List.map_map]
      rfl
    simp only [stripped, allowed, compile, hplaced, innerHitsOf_stripped, nested, keep_keep]

end NestedForm

def Relative.allowed : Relative → List String
  | .parent => Allowed.hasParent
  | .child => Allowed.hasChild

lemma Relative.fragment_keep (relative : Relative) (type : String) (query : Json)
    (options : Options) :
    relative.fragment type query (keep relative.allowed options) =
      relative.fragment type query options := by
  cases relative <;> simp only [fragment, allowed, hasParent, hasChild, keep_keep]

def ClauseForm.allowed {α : Type} : ClauseForm α → List String
  | .condition c => c.allowed
  | .nested form _ clauses => form.allowed clauses.isEmpty
  | .functionScore .. => Allowed.functionScore
  | .related relative .. => relative.allowed

namespace Clause

mutual

def stripped : Clause → Clause
  | ⟨form, combinator, negate, options⟩ =>
    ⟨formStripped form, combinator, negate, keep form.allowed options⟩

def formStripped : ClauseForm Clause → ClauseForm Clause
  | .condition c => .condition c
  | .nested form path clauses => .nested form.stripped path (listStripped clauses)
  | .functionScore function params clauses => .functionScore function params (listStripped clauses)
  | .related relative type query filter =>
    .related relative type (listStripped query) (listStripped filter)

def listStripped : List Clause → List Clause
  | [] => []
  | c :: cs => stripped c :: listStripped cs

end

lemma isEmpty_listStripped (cs : List Clause) : (listStripped cs).isEmpty = cs.isEmpty := by
  cases cs <;> rfl

lemma literals_bind_congr {α : Type} {scope : Scope} {cs : List Clause}
    {f g : List Literal → Compile α} (h : ∀ ls, ls.isEmpty = cs.isEmpty → f ls = g ls) :
    literals scope cs >>= f = literals scope cs >>= g := by
  cases cs with
  | nil => exact h [] rfl
  | cons c cs =>
    simp only [literals, bind_assoc, pure_bind]
    congr 1
    funext a
    congr 1
    funext ls
    exact h _ rfl

mutual

lemma assertion_stripped (scope : Scope) : (c : Clause) →
    assertion scope c.stripped = assertion scope c
  | ⟨form, _, _, options⟩ => formAssertion_stripped scope options form

lemma formAssertion_stripped (scope : Scope) (options : Options) : (form : ClauseForm Clause) →
    formAssertion scope (keep form.allowed options) (formStripped form) =
      formAssertion scope options form
  | .condition c => by
    rw [formStripped, formAssertion, formAssertion, ClauseForm.allowed,
      ← c.allowed_mapColumns scope.column, Condition.compile_keep]
  | .nested form path clauses => by
    rw [formStripped, formAssertion, formAssertion, ClauseForm.allowed, literals_stripped]
    apply literals_bind_congr
    intro ls hls
    dsimp only
    rw [← hls, ← Query.isMatchAll_ofLiterals, NestedForm.compile_stripped]
  | .functionScore function params clauses => by
    rw [formStripped, formAssertion, formAssertion, literals_stripped]
    simp only [ClauseForm.allowed, Fragment.functionScore, keep_keep]
  | .related relative type query filter => by
    rw [formStripped, formAssertion, formAssertion, literals_stripped, literals_stripped,
      isEmpty_listStripped]
    simp only [ClauseForm.allowed, Relative.fragment_keep]

lemma literals_stripped (scope : Scope) : (cs : List Clause) →
    literals scope (listStripped cs) = literals scope cs
  | [] => rfl
  | ⟨form, combinator, negate, options⟩ :: cs => by
    rw [listStripped, literals, literals, assertion_stripped, literals_stripped]
    rfl

end

mutual

lemma overloaded_stripped : (c : Clause) → overloaded c.stripped = overloaded c
  | ⟨form, _, _, _⟩ => overloadedIn_formStripped form

lemma overloadedIn_formStripped : (form : ClauseForm Clause) →
    overloadedIn (formStripped form) = overloadedIn form
  | .condition _ => rfl
  | .nested _ _ clauses => firstOverloaded_listStripped clauses
  | .functionScore _ _ clauses => firstOverloaded_listStripped clauses
  | .related relative type query filter => by
    rw [formStripped, overloadedIn, overloadedIn, isEmpty_listStripped, isEmpty_listStripped,
      firstOverloaded_listStripped, firstOverloaded_listStripped]

lemma firstOverloaded_listStripped : (cs : List Clause) →
    firstOverloaded (listStripped cs) = firstOverloaded cs
  | [] => rfl
  | c :: cs => by
    rw [listStripped, firstOverloaded, firstOverloaded, overloaded_stripped,
      firstOverloaded_listStripped]

end

lemma compileList_stripped (cs : List Clause) : compileList (listStripped cs) = compileList cs := by
  rw [compileList, compileList, firstOverloaded_listStripped, literals_stripped]

end Clause

end SearchCompiler
