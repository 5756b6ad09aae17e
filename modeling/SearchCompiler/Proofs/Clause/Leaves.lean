import Mathlib.Data.List.Forall2
import SearchCompiler.Proofs.Lookup.Evaluation
import SearchCompiler.Proofs.Query.Runs
import SearchCompiler.Query.Assertion

/-! The literals of a clause list, clause by clause, and the clauses inside a clause. Compiling
below a path is compiling the clauses that are scoped to it. -/

namespace SearchCompiler

lemma Condition.mapColumns_none (c : Condition) : c.mapColumns (Scope.column none) = c := by
  have hf : Scope.column none = id := rfl
  cases c <;> simp [mapColumns, hf]

namespace Clause

lemma assertion_some (path : String) (c : Clause) :
    assertion (some path) c = assertion none (c.inScope path) := by
  obtain ⟨form, combinator, negate, options⟩ := c
  cases form with
  | condition c =>
    simp only [assertion, inScope, ClauseForm.mapColumns, formAssertion]
    rw [Condition.mapColumns_none]
    rfl
  | nested form inner clauses => rfl
  | functionScore function params clauses => rfl
  | related relative type query filter => rfl

lemma literals_some (path : String) (cs : List Clause) :
    literals (some path) cs = literals none (cs.map fun c => c.inScope path) := by
  induction cs with
  | nil => rfl
  | cons c cs ih =>
    rw [List.map_cons, literals, literals, assertion_some, ih]
    rfl

def inner? (c : Clause) : Option (List Clause) :=
  match c.form with
  | .condition _ | .nested .required _ [] => none
  | .nested _ path clauses => some (clauses.map fun d => d.inScope path)
  | .functionScore _ _ clauses => some clauses
  | .related _ _ query filter => some (if filter.isEmpty then query else filter)

lemma eq_of_inner?_nested {form : NestedForm} {path : String} {clauses ds : List Clause}
    {k : Combinator} {n : Bool} {options : Options}
    (h : inner? ⟨.nested form path clauses, k, n, options⟩ = some ds) :
    ds = (clauses.map fun d => d.inScope path) ∧ (ds ≠ [] ∨ form ≠ .required) := by
  rw [inner?] at h
  split at h
  · cases h
  · cases h
  · rename_i form' path' clauses' hne hform
    obtain ⟨rfl, rfl, rfl⟩ := ClauseForm.nested.inj hform
    obtain rfl := Option.some.inj h
    refine ⟨rfl, ?_⟩
    by_contra hc
    push Not at hc
    obtain ⟨hnil, rfl⟩ := hc
    exact hne rfl (List.map_eq_nil_iff.mp hnil)
  · rename_i hform
    cases hform
  · rename_i hform
    cases hform

inductive Within (cs : List Clause) : Clause → Prop
  | top {c} : c ∈ cs → Within cs c
  | inside {c d ds} : Within cs c → c.inner? = some ds → d ∈ ds → Within cs d

def innerFragment (c : Clause) (q : Query) : Json :=
  match c.form with
  | .related _ _ _ (_ :: _) => Fragment.bool [] [] [] [q.toJson]
  | _ => q.toJson

def Encloses (c : Clause) (fragment query : Json) : Prop :=
  match c.form with
  | .condition _ => False
  | .nested _ path _ => ∃ hits, fragment = Fragment.nested path query hits c.options
  | .functionScore function params _ =>
    fragment = Fragment.functionScore query function params c.options
  | .related relative type _ _ => fragment = relative.fragment type query c.options

def HidesQuery (c : Clause) : Prop :=
  ∃ params clauses, c.form = .functionScore "query" params clauses

end Clause

namespace Context

def literal (x : Context) (c : Clause) : Except Failure Literal :=
  (x.result (c.assertion none)).map fun a => ⟨c.combinator, c.negate != a.inverted, a.fragment⟩

lemma literal_eq_ok (x : Context) (c : Clause) (l : Literal) :
    x.literal c = .ok l ↔ ∃ a, x.result (c.assertion none) = .ok a ∧
      ⟨c.combinator, c.negate != a.inverted, a.fragment⟩ = l := by
  rw [literal]
  cases x.result (c.assertion none) <;> simp [Except.map]

lemma combinator_eq {x : Context} {c : Clause} {l : Literal} (h : x.literal c = .ok l) :
    c.combinator = l.combinator := by
  obtain ⟨a, -, rfl⟩ := (x.literal_eq_ok c l).mp h
  rfl

lemma exists_literal {x : Context} {cs : List Clause} {ls : List Literal} {c : Clause}
    (h : List.Forall₂ (fun c l => x.literal c = .ok l) cs ls) (hc : c ∈ cs) :
    ∃ l ∈ ls, x.literal c = .ok l := by
  induction h with
  | nil => cases hc
  | cons hl _ ih =>
    rcases List.mem_cons.mp hc with rfl | hc
    · exact ⟨_, List.mem_cons_self, hl⟩
    · obtain ⟨l, hmem, hl⟩ := ih hc
      exact ⟨l, List.mem_cons_of_mem _ hmem, hl⟩

lemma runs_forall₂ {x : Context} {cs : List Clause} {ls : List Literal}
    (h : List.Forall₂ (fun c l => x.literal c = .ok l) cs ls) :
    List.Forall₂ (List.Forall₂ fun c l => x.literal c = .ok l)
      (Combinator.runs Clause.combinator cs) (Literal.runs ls) :=
  Combinator.forall₂_runs (R := fun c l => x.literal c = .ok l)
    (fun _ _ hcl => combinator_eq hcl) h

lemma result_literals (x : Context) (cs : List Clause) (ls : List Literal) :
    x.result (Clause.literals none cs) = .ok ls ↔
      List.Forall₂ (fun c l => x.literal c = .ok l) cs ls := by
  induction cs generalizing ls with
  | nil =>
    rw [Clause.literals, result_pure]
    simp [eq_comm]
  | cons c cs ih =>
    simp only [Clause.literals, result_bind_eq_ok, result_pure, Except.ok.injEq, ih,
      List.forall₂_cons_left_iff, literal_eq_ok]
    constructor
    · rintro ⟨a, ha, ls, hls, rfl⟩
      exact ⟨_, ls, ⟨a, ha, rfl⟩, hls, rfl⟩
    · rintro ⟨_, ls, ⟨a, ha, rfl⟩, hls, rfl⟩
      exact ⟨a, ha, ls, hls, rfl⟩

lemma result_compileList (x : Context) (cs : List Clause) (q : Query) :
    x.result (Clause.compileList cs) = .ok q ↔ Clause.firstOverloaded cs = none ∧
      ∃ ls, List.Forall₂ (fun c l => x.literal c = .ok l) cs ls ∧ Query.ofLiterals ls = q := by
  rw [Clause.compileList]
  cases Clause.firstOverloaded cs with
  | some type => simp
  | none =>
    simp only [result_bind_eq_ok, result_pure, result_literals, Except.ok.injEq, true_and]

lemma nestedForm_eq_ok (x : Context) {form : NestedForm} {path : String} {inner : Query}
    {options : Options} {fragment : Json} (hi : inner ≠ .matchAll ∨ form ≠ .required)
    (h : x.result (form.compile path inner options) = .ok fragment) :
    ∃ hits, fragment = Fragment.nested path inner.toJson hits options := by
  cases form with
  | plain => exact ⟨none, (Except.ok.inj h).symm⟩
  | required =>
    have hn : inner.isMatchAll = false := by cases inner <;> simp_all [Query.isMatchAll]
    simp only [NestedForm.compile, hn] at h
    exact ⟨none, (Except.ok.inj h).symm⟩
  | inner keys offset limit =>
    obtain ⟨hits, -, hf⟩ := (x.result_bind_eq_ok _ _ _).mp h
    exact ⟨some hits, (Except.ok.inj hf).symm⟩

lemma exists_inner (x : Context) {c : Clause} {a : Assertion} {ds : List Clause}
    (ha : x.result (c.assertion none) = .ok a) (hd : c.inner? = some ds) :
    ∃ ls, List.Forall₂ (fun d l => x.literal d = .ok l) ds ls ∧
      c.Encloses a.fragment (c.innerFragment (Query.ofLiterals ls)) := by
  obtain ⟨form, combinator, negate, options⟩ := c
  rw [Clause.assertion] at ha
  cases form with
  | condition c => cases hd
  | nested form path clauses =>
    obtain ⟨ls, hls, ha⟩ := (x.result_bind_eq_ok _ _ _).mp ha
    obtain ⟨fragment, hf, ha⟩ := (x.result_bind_eq_ok _ _ _).mp ha
    obtain ⟨hds, hne⟩ := Clause.eq_of_inner?_nested hd
    rw [Scope.column, Clause.literals_some, result_literals, ← hds] at hls
    have hi : Query.ofLiterals ls ≠ .matchAll ∨ form ≠ .required := by
      refine hne.imp_left fun hne hm => hne ?_
      obtain rfl := Query.ofLiterals_eq_matchAll.mp hm
      exact List.forall₂_nil_right_iff.mp hls
    obtain ⟨hits, rfl⟩ := x.nestedForm_eq_ok hi hf
    obtain rfl := Except.ok.inj ha
    exact ⟨ls, hls, hits, rfl⟩
  | functionScore function params clauses =>
    obtain ⟨ls, hls, ha⟩ := (x.result_bind_eq_ok _ _ _).mp ha
    obtain rfl := Except.ok.inj ha
    obtain rfl := Option.some.inj hd
    exact ⟨ls, (x.result_literals _ _).mp hls, rfl⟩
  | related relative type query filter =>
    rw [Clause.formAssertion] at ha
    cases filter with
    | nil =>
      obtain ⟨ls, hls, ha⟩ := (x.result_bind_eq_ok _ _ _).mp ha
      obtain rfl := Except.ok.inj ha
      obtain rfl := Option.some.inj hd
      exact ⟨ls, (x.result_literals _ _).mp hls, rfl⟩
    | cons d ds =>
      obtain ⟨ls, hls, ha⟩ := (x.result_bind_eq_ok _ _ _).mp ha
      obtain rfl := Except.ok.inj ha
      obtain rfl := Option.some.inj hd
      exact ⟨ls, (x.result_literals _ _).mp hls, rfl⟩

end Context

def Context.people : Context where
  source.index := "people"
  source.provider := .ofTable "gone" <| .ofList [("people", .ofPairs [("name", "text"),
    ("name.keyword", "keyword"), ("comments", "nested"), ("comments.author", "keyword")])]

namespace Clause

def authored : List Clause := [
  { form := .condition (.compare "name" .notEq (.string "bob"))
    combinator := .or
    negate := true },
  { form := .condition (.text .words "bio" (.string "rust")), negate := true },
  { form := .nested .plain "comments" [
      { form := .condition (.compare "author" .eq (.string "bob")), negate := true }]
    combinator := .or }]

def authoredQuery : Query :=
  let term (field : String) : Json := .single "term" (.single field (.string "bob"))
  let words : Json := .single "match" (.single "bio" (.string "rust"))
  let first : Json := .single "bool" (.object [("must", .array [term "name.keyword"]),
    ("must_not", .array [words])])
  let second : Json := .single "nested" (.object [("path", .string "comments"),
    ("query", .single "bool" (.single "must_not" (.array [term "comments.author"])))])
  .bool { must := [], mustNot := [], should := [first, second], filter := [] }

end Clause

end SearchCompiler
