import Mathlib.Tactic.Common
import SearchCompiler.Proofs.Clause.Leaves

/-! A condition and its complement, negated the other way, are one literal. Clauses of a tree can
therefore be exchanged for their duals wherever they stand. -/

namespace SearchCompiler

namespace Operator

def complement? : Operator → Option Operator
  | .eq => some .notEq
  | .notEq => some .eq
  | .like => some .notLike
  | .notLike => some .like
  | .bound _ => none

def unsigned : Operator → Operator
  | .notEq => .eq
  | .notLike => .like
  | op => op

end Operator

def Failure.unsigned : Failure → Failure
  | .descriptor (.textNeeded op column) => .descriptor (.textNeeded op.unsigned column)
  | e => e

lemma Failure.ctorIdx_unsigned (e : Failure) : e.unsigned.ctorIdx = e.ctorIdx := by
  unfold unsigned
  split <;> rfl

namespace Context

variable {x : Context} {α β : Type}

def verdict (x : Context) (c : Compile α) : Except Failure α :=
  (x.result c).mapError Failure.unsigned

lemma verdict_bind (c : Compile α) (f : α → Compile β) :
    x.verdict (c >>= f) = x.verdict c >>= fun a => x.verdict (f a) := by
  rw [verdict, verdict, result_bind]
  cases x.result c with
  | ok a => rfl
  | error e => rfl

lemma verdict_bind_congr {c c' : Compile α} (h : x.verdict c = x.verdict c') (f : α → Compile β) :
    x.verdict (c >>= f) = x.verdict (c' >>= f) := by
  rw [verdict_bind, verdict_bind, h]

lemma result_eq_ok_iff {c c' : Compile α} (h : x.verdict c = x.verdict c') (a : α) :
    x.result c = .ok a ↔ x.result c' = .ok a := by
  rw [verdict, verdict] at h
  cases hc : x.result c <;> cases hc' : x.result c' <;> simp_all [Except.mapError]

lemma exists_result_eq_error {c c' : Compile α} (h : x.verdict c = x.verdict c') {e : Failure}
    (he : x.result c = .error e) : ∃ e', x.result c' = .error e' ∧ e'.unsigned = e.unsigned := by
  rw [verdict, verdict, he] at h
  cases hc' : x.result c' with
  | ok a =>
    rw [hc'] at h
    cases h
  | error e' =>
    rw [hc'] at h
    exact ⟨e', rfl, (Except.error.inj h).symm⟩

end Context

namespace Condition

def complement? : Condition → Option Condition
  | .compare column op value => op.complement?.map fun op' => .compare column op' value
  | .onDay column .eq value => some (.onDay column .notEq value)
  | .onDay column .notEq value => some (.onDay column .eq value)
  | _ => none

lemma complement?_mapColumns (f : String → String) (c : Condition) :
    (c.mapColumns f).complement? = c.complement?.map (mapColumns f) := by
  cases c with
  | compare column op value => cases op <;> rfl
  | onDay column op value => cases op <;> rfl
  | _ => rfl

end Condition

def Assertion.flipped (a : Assertion) : Assertion := { a with inverted := !a.inverted }

namespace Condition

variable {x : Context}

lemma map_bind {α β γ : Type} (r : Except Failure α) (f : α → Except Failure β) (g : β → γ) :
    (r >>= f).map g = r >>= fun a => (f a).map g := by
  cases r <;> rfl

lemma verdict_compileComparison {op op' : Operator} (h : op.complement? = some op')
    (column : String) (value : Json) (options : Options) :
    x.verdict (compileComparison column op' value options) =
      (x.verdict (compileComparison column op value options)).map Assertion.flipped := by
  cases op with
  | eq | notEq =>
    cases h
    simp only [compileComparison]
    by_cases hv : value.isNull
    · simp only [hv, if_true]
      rfl
    · simp only [hv, Bool.false_eq_true, if_false, Context.verdict_bind, map_bind]
      rfl
  | like | notLike =>
    cases h
    simp only [compileComparison]
    -- Without a text both fail, and each failure names its own operator.
    cases value with
    | string source =>
      rw [Context.verdict_bind, Context.verdict_bind, map_bind]
      rfl
    | _ => rfl
  | bound b => cases h

lemma verdict_of_complement? {c c' : Condition} (h : c.complement? = some c') (options : Options) :
    x.verdict (c'.compile options) = (x.verdict (c.compile options)).map Assertion.flipped := by
  cases c with
  | compare column op value =>
    obtain ⟨op', hop, rfl⟩ := Option.map_eq_some_iff.mp h
    exact verdict_compileComparison hop column value options
  | onDay column op value =>
    cases op with
    | eq | notEq =>
      obtain rfl := Option.some.inj h
      simp only [compile, compileOnDay, dayBounds?, Context.verdict_bind, map_bind]
      rfl
    | like | notLike | bound => cases h
  | _ => cases h

end Condition

namespace Clause

def dual (c : Clause) : Clause :=
  match c.form with
  | .condition condition =>
    match condition.complement? with
    | some complement => { c with form := .condition complement, negate := !c.negate }
    | none => c
  | _ => c

abbrev Place := List Nat

mutual

/-- The clause with those inside it, and itself, replaced by their duals where they are chosen. -/
def turned (chosen : Place → Bool) : Clause → Clause
  | ⟨form, combinator, negate, options⟩ =>
    let form := formTurned (fun i place => chosen (i :: place)) form
    let c : Clause := { form, combinator, negate, options }
    if chosen [] then c.dual else c

def formTurned (chosen : Nat → Place → Bool) : ClauseForm Clause → ClauseForm Clause
  | .condition c => .condition c
  | .nested form path clauses => .nested form path (listTurned chosen clauses)
  | .functionScore function params clauses =>
    .functionScore function params (listTurned chosen clauses)
  | .related relative type query filter =>
    .related relative type (listTurned chosen query)
      (listTurned (fun i => chosen (query.length + i)) filter)

def listTurned (chosen : Nat → Place → Bool) : List Clause → List Clause
  | [] => []
  | c :: cs => turned (chosen 0) c :: listTurned (fun i => chosen (i + 1)) cs

end

variable {x : Context}

lemma overloaded_dual (c : Clause) : overloaded c.dual = overloaded c := by
  obtain ⟨form, combinator, negate, options⟩ := c
  cases form with
  | condition c =>
    simp only [dual]
    split <;> rfl
  | nested | functionScore | related => rfl

def literal (scope : Scope) (c : Clause) : Compile Literal := do
  let a ← assertion scope c
  return ⟨c.combinator, c.negate != a.inverted, a.fragment⟩

lemma literals_cons (scope : Scope) (c : Clause) (cs : List Clause) :
    literals scope (c :: cs) = (do return (← literal scope c) :: (← literals scope cs)) := by
  simp only [literals, literal, bind_assoc, pure_bind]

lemma verdict_literal_dual (scope : Scope) (c : Clause) :
    x.verdict (literal scope c.dual) = x.verdict (literal scope c) := by
  obtain ⟨form, combinator, negate, options⟩ := c
  cases form with
  | condition c =>
    simp only [dual]
    split
    · rename_i complement hc
      have hscoped : (c.mapColumns scope.column).complement? =
          some (complement.mapColumns scope.column) := by
        rw [Condition.complement?_mapColumns, hc]
        rfl
      have hverdict := Condition.verdict_of_complement? (x := x) hscoped options
      simp only [literal, assertion, formAssertion, Context.verdict_bind, hverdict]
      cases x.verdict ((c.mapColumns scope.column).compile options) with
      | ok a =>
        simp only [Except.map, Assertion.flipped, bind, Except.bind, Bool.not_bne_not]
      | error e => rfl
    · rfl
  | nested | functionScore | related => rfl

lemma isEmpty_listTurned (chosen : Nat → Place → Bool) (cs : List Clause) :
    (listTurned chosen cs).isEmpty = cs.isEmpty := by
  cases cs <;> rfl

mutual

lemma verdict_literal_turned (scope : Scope) : (c : Clause) → ∀ chosen,
    x.verdict (literal scope (turned chosen c)) = x.verdict (literal scope c)
  | ⟨form, combinator, negate, options⟩, chosen => by
    have hform := Context.verdict_bind_congr
      (verdict_formAssertion_turned scope options form fun i place => chosen (i :: place))
      fun a => (pure ⟨combinator, negate != a.inverted, a.fragment⟩ : Compile Literal)
    simp only [turned]
    split
    · rw [verdict_literal_dual]
      exact hform
    · exact hform

lemma verdict_formAssertion_turned (scope : Scope) (options : Options) :
    (form : ClauseForm Clause) → ∀ chosen,
    x.verdict (formAssertion scope options (formTurned chosen form)) =
      x.verdict (formAssertion scope options form)
  | .condition _, _ => rfl
  | .nested form path clauses, chosen => by
    rw [formTurned, formAssertion, formAssertion]
    exact Context.verdict_bind_congr (verdict_literals_turned _ clauses chosen) _
  | .functionScore function params clauses, chosen => by
    rw [formTurned, formAssertion, formAssertion]
    exact Context.verdict_bind_congr (verdict_literals_turned none clauses chosen) _
  | .related relative type query filter, chosen => by
    rw [formTurned, formAssertion, formAssertion, isEmpty_listTurned]
    split
    · exact Context.verdict_bind_congr (verdict_literals_turned none query chosen) _
    · exact Context.verdict_bind_congr (verdict_literals_turned none filter _) _

lemma verdict_literals_turned (scope : Scope) : (cs : List Clause) → ∀ chosen,
    x.verdict (literals scope (listTurned chosen cs)) = x.verdict (literals scope cs)
  | [], _ => rfl
  | c :: cs, chosen => by
    rw [listTurned, literals_cons, literals_cons]
    simp only [Context.verdict_bind, verdict_literal_turned scope c,
      verdict_literals_turned scope cs]

end

mutual

lemma overloaded_turned : (c : Clause) → ∀ chosen, overloaded (turned chosen c) = overloaded c
  | ⟨form, combinator, negate, options⟩, chosen => by
    have hform := overloadedIn_formTurned form fun i place => chosen (i :: place)
    simp only [turned]
    split
    · rw [overloaded_dual]
      exact hform
    · exact hform

lemma overloadedIn_formTurned : (form : ClauseForm Clause) → ∀ chosen,
    overloadedIn (formTurned chosen form) = overloadedIn form
  | .condition _, _ => rfl
  | .nested _ _ clauses, chosen => firstOverloaded_listTurned clauses chosen
  | .functionScore _ _ clauses, chosen => firstOverloaded_listTurned clauses chosen
  | .related relative type query filter, chosen => by
    rw [formTurned, overloadedIn, overloadedIn, isEmpty_listTurned, isEmpty_listTurned,
      firstOverloaded_listTurned query, firstOverloaded_listTurned filter]

lemma firstOverloaded_listTurned : (cs : List Clause) → ∀ chosen,
    firstOverloaded (listTurned chosen cs) = firstOverloaded cs
  | [], _ => rfl
  | c :: cs, chosen => by
    rw [listTurned, firstOverloaded, firstOverloaded, overloaded_turned c,
      firstOverloaded_listTurned cs]

end

lemma verdict_compileList_turned (chosen : Nat → Place → Bool) (cs : List Clause) :
    x.verdict (compileList (listTurned chosen cs)) = x.verdict (compileList cs) := by
  rw [compileList, compileList, firstOverloaded_listTurned]
  cases firstOverloaded cs with
  | some type => rfl
  | none => exact Context.verdict_bind_congr (verdict_literals_turned none cs chosen) _

theorem compileList_turned (x : Context) (chosen : Nat → Place → Bool) (cs : List Clause) :
    (∀ q, x.result (compileList cs) = .ok q ↔
        x.result (compileList (listTurned chosen cs)) = .ok q) ∧
      ∀ e, x.result (compileList cs) = .error e →
        ∃ e', x.result (compileList (listTurned chosen cs)) = .error e' ∧
          e'.ctorIdx = e.ctorIdx ∧ e'.unsigned = e.unsigned := by
  have hverdict : x.verdict (compileList cs) = x.verdict (compileList (listTurned chosen cs)) :=
    (verdict_compileList_turned chosen cs).symm
  refine ⟨Context.result_eq_ok_iff hverdict, ?_⟩
  intro e he
  obtain ⟨e', he', hunsigned⟩ := Context.exists_result_eq_error hverdict he
  refine ⟨e', he', ?_, hunsigned⟩
  rw [← e'.ctorIdx_unsigned, ← e.ctorIdx_unsigned, hunsigned]

end Clause

end SearchCompiler
