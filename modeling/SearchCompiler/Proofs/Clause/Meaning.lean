import SearchCompiler.Proofs.Clause.Leaves
import SearchCompiler.Proofs.Query.Meaning

/-! Which documents a clause list matches: those for which all clauses of one of its runs hold. The
same is true of the clauses inside a clause, however deep it stands. -/

namespace SearchCompiler

def Json.queryMember : Json → Option Json
  | .object [(_, body)] => body.get? "query"
  | _ => none

lemma Fragment.queryMember_nested (path : String) (query : Json) (hits : Option Json)
    (options : Options) : (Fragment.nested path query hits options).queryMember = some query := by
  cases hits with
  | none => exact Entries.get?_insert_self "query" query _
  | some hits =>
    have hk : "query" ≠ "inner_hits" := by decide
    exact (Entries.get?_insert_of_ne hits _ hk).trans (Entries.get?_insert_self "query" query _)

namespace Clause

variable {x : Context} {holds : Json → Prop}

def Holds (x : Context) (holds : Json → Prop) (c : Clause) : Prop :=
  ∃ a, x.result (c.assertion none) = .ok a ∧
    Xor (holds a.fragment) (Xor (c.negate = true) (a.inverted = true))

def SomeRunHolds (x : Context) (holds : Json → Prop) (cs : List Clause) : Prop :=
  cs = [] ∨ ∃ run ∈ Combinator.runs combinator cs, ∀ c ∈ run, c.Holds x holds

lemma holds_iff {c : Clause} {l : Literal} (h : x.literal c = .ok l) :
    c.Holds x holds ↔ l.Holds holds := by
  obtain ⟨a, ha, rfl⟩ := (x.literal_eq_ok c l).mp h
  have hn : (c.negate != a.inverted) = true ↔ Xor (c.negate = true) (a.inverted = true) := by
    cases c.negate <;> cases a.inverted <;> simp
  constructor
  · rintro ⟨a', ha', hx⟩
    obtain rfl := Except.ok.inj (ha.symm.trans ha')
    rwa [Literal.Holds, hn]
  · intro hx
    rw [Literal.Holds, hn] at hx
    exact ⟨a, ha, hx⟩

lemma forall_holds_iff {run : List Clause} {rl : List Literal}
    (h : List.Forall₂ (fun c l => x.literal c = .ok l) run rl) :
    (∀ c ∈ run, c.Holds x holds) ↔ ∀ l ∈ rl, l.Holds holds := by
  induction h with
  | nil => simp
  | cons hc _ ih => rw [List.forall_mem_cons, List.forall_mem_cons, holds_iff hc, ih]

lemma exists_run_iff {runs : List (List Clause)} {rls : List (List Literal)}
    (h : List.Forall₂ (List.Forall₂ fun c l => x.literal c = .ok l) runs rls) :
    (∃ run ∈ runs, ∀ c ∈ run, c.Holds x holds) ↔ ∃ rl ∈ rls, ∀ l ∈ rl, l.Holds holds := by
  induction h with
  | nil => simp
  | cons hr _ ih => simp only [List.mem_cons, exists_eq_or_imp, forall_holds_iff hr, ih]

lemma someRunHolds_iff {cs : List Clause} {ls : List Literal}
    (h : List.Forall₂ (fun c l => x.literal c = .ok l) cs ls) :
    SomeRunHolds x holds cs ↔
      ls = [] ∨ ∃ run ∈ Literal.runs ls, ∀ l ∈ run, l.Holds holds := by
  have hn : cs = [] ↔ ls = [] := by cases h <;> simp
  rw [SomeRunHolds, hn, exists_run_iff (Context.runs_forall₂ h)]

lemma holds_innerFragment (hh : Fragment.Reads holds) (c : Clause) (q : Query) :
    holds (c.innerFragment q) ↔ holds q.toJson := by
  rw [innerFragment]
  split
  · simp [hh.bool]
  · rfl

lemma Encloses.queryMember {c : Clause} {fragment query : Json} (h : c.Encloses fragment query)
    (hq : ¬ c.HidesQuery) : fragment.queryMember = some query := by
  obtain ⟨form, combinator, negate, options⟩ := c
  cases form with
  | condition c => exact h.elim
  | nested form path clauses =>
    obtain ⟨hits, rfl⟩ := h
    exact Fragment.queryMember_nested path query hits options
  | functionScore function params clauses =>
    obtain rfl := h
    have hf : "query" ≠ function := by
      rintro rfl
      exact hq ⟨params, clauses, rfl⟩
    refine (Entries.get?_insert_of_ne _ _ hf).trans ?_
    exact Entries.get?_insert_self _ _ _
  | related relative type own filter =>
    obtain rfl := h
    cases relative <;> exact Entries.get?_insert_self _ _ _

lemma exists_assertion {cs : List Clause} {ls : List Literal} {c : Clause}
    (h : List.Forall₂ (fun c l => x.literal c = .ok l) cs ls) (hc : c ∈ cs) :
    ∃ a, x.result (c.assertion none) = .ok a := by
  obtain ⟨l, -, hl⟩ := Context.exists_literal h hc
  obtain ⟨a, ha, -⟩ := (x.literal_eq_ok c l).mp hl
  exact ⟨a, ha⟩

lemma Within.exists_assertion {cs : List Clause} {c : Clause} {ls : List Literal}
    (hls : List.Forall₂ (fun c l => x.literal c = .ok l) cs ls) (h : Within cs c) :
    ∃ a, x.result (c.assertion none) = .ok a := by
  induction h with
  | top hc => exact Clause.exists_assertion hls hc
  | inside _ hd hc ih =>
    obtain ⟨a, ha⟩ := ih
    obtain ⟨ms, hms, -⟩ := x.exists_inner ha hd
    exact Clause.exists_assertion hms hc

structure Means (x : Context) (holds : Json → Prop) (cs : List Clause) (q : Query) : Prop where
  whole : holds q.toJson ↔ SomeRunHolds x holds cs
  inside : ∀ c ds, Within cs c → c.inner? = some ds →
    ∃ a ls, x.result (c.assertion none) = .ok a ∧
      List.Forall₂ (fun d l => x.literal d = .ok l) ds ls ∧
      c.Encloses a.fragment (c.innerFragment (Query.ofLiterals ls)) ∧
      (¬ c.HidesQuery →
        a.fragment.queryMember = some (c.innerFragment (Query.ofLiterals ls))) ∧
      (holds (c.innerFragment (Query.ofLiterals ls)) ↔ SomeRunHolds x holds ds)

theorem compileList_means (x : Context) (holds : Json → Prop) (hh : Fragment.Reads holds)
    (cs : List Clause) (q : Query) (h : x.result (compileList cs) = .ok q) :
    Means x holds cs q := by
  obtain ⟨-, ls, hls, rfl⟩ := (x.result_compileList cs q).mp h
  refine ⟨(hh.toJson_ofLiterals ls).trans (someRunHolds_iff hls).symm, fun c ds hc hd => ?_⟩
  obtain ⟨a, ha⟩ := hc.exists_assertion hls
  obtain ⟨ms, hms, he⟩ := x.exists_inner ha hd
  refine ⟨a, ms, ha, hms, he, he.queryMember, ?_⟩
  rw [holds_innerFragment hh, hh.toJson_ofLiterals, someRunHolds_iff hms]

theorem compileList_means_authored :
    Fragment.Reads (fun f => f.matched (fun _ => true) = true) ∧
      Context.people.result (compileList authored) = .ok authoredQuery ∧
      Means .people (fun f => f.matched (fun _ => true) = true) authored authoredQuery :=
  ⟨Json.reads_matched _, rfl, compileList_means .people _ (Json.reads_matched _) authored _ rfl⟩

end Clause

end SearchCompiler
