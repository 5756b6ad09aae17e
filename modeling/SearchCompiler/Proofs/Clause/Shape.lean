import SearchCompiler.Proofs.Clause.Leaves

/-! The shape of the query of a clause list: which clauses stand in which group, in what order. -/

namespace SearchCompiler

lemma Query.ofLiterals_cons_combinator (k k' : Combinator) (n : Bool) (fragment : Json)
    (ls : List Literal) :
    Query.ofLiterals (⟨k, n, fragment⟩ :: ls) = Query.ofLiterals (⟨k', n, fragment⟩ :: ls) := by
  cases k <;> cases k' <;> rfl

namespace Clause

lemma compileList_cons_combinator (k : Combinator) (c : Clause) (cs : List Clause) :
    compileList ({ c with combinator := k } :: cs) = compileList (c :: cs) := by
  obtain ⟨form, k', negate, options⟩ := c
  have ho : firstOverloaded (⟨form, k, negate, options⟩ :: cs) =
      firstOverloaded (⟨form, k', negate, options⟩ :: cs) := rfl
  rw [compileList, compileList, ho]
  cases firstOverloaded (⟨form, k', negate, options⟩ :: cs) with
  | some type => rfl
  | none =>
    simp only [literals, bind_assoc, pure_bind]
    congr 1
    funext a
    congr 1
    funext ls
    rw [Query.ofLiterals_cons_combinator k k']

end Clause

namespace Literal

def RunEntry (run : List Literal) (entry : Json) : Prop :=
  (∃ l, run = [l] ∧ l.negated = false ∧ entry = l.fragment) ∨
    (¬ ∃ l, run = [l] ∧ l.negated = false) ∧
      entry = Fragment.bool ((run.filter fun l => !l.negated).map fragment)
        ((run.filter fun l => l.negated).map fragment) [] []

lemma runEntry_ofRun (run : List Literal) : RunEntry run (ofRun run).toJson := by
  simp only [ofRun]
  split
  · exact Or.inl ⟨_, rfl, rfl, rfl⟩
  · rename_i hn
    refine Or.inr ⟨?_, rfl⟩
    rintro ⟨⟨k, n, fragment⟩, rfl, rfl⟩
    exact hn k fragment rfl

lemma ofRun_of_ne {run : List Literal} (hn : ∀ fragment, ofRun run ≠ .bare fragment) :
    ofRun run = .bool { must := plain run, mustNot := excluded run } := by
  simp only [ofRun] at hn ⊢
  split
  · exact (hn _ rfl).elim
  · rfl

end Literal

namespace Clause

lemma exists_or_of_forall₂ {x : Context} {cs : List Clause} {ls : List Literal}
    (h : List.Forall₂ (fun c l => x.literal c = .ok l) cs ls) :
    (∃ c ∈ cs, c.combinator = .or) ↔ ∃ l ∈ ls, l.combinator = .or := by
  induction h with
  | nil => simp
  | cons hc _ ih => simp only [List.mem_cons, exists_eq_or_imp, ih, Context.combinator_eq hc]

lemma exists_or_tail {x : Context} {cs : List Clause} {ls : List Literal}
    (h : List.Forall₂ (fun c l => x.literal c = .ok l) cs ls) :
    (∃ c ∈ cs.tail, c.combinator = .or) ↔ ∃ l ∈ ls.tail, l.combinator = .or := by
  cases h with
  | nil => simp
  | cons _ h => exact exists_or_of_forall₂ h

structure Shape (x : Context) (cs : List Clause) (ls : List Literal) (q : Query) : Prop where
  literals : List.Forall₂ (fun c l => x.literal c = .ok l) cs ls
  matchAll : q = .matchAll ↔ cs = []
  bare : ∀ fragment, q = .bare fragment ↔
    ∃ c l, cs = [c] ∧ ls = [l] ∧ l.negated = false ∧ l.fragment = fragment
  oneRun : (∀ c ∈ cs.tail, c.combinator = .and) → q ≠ .matchAll → (∀ fragment, q ≠ .bare fragment) →
    q = .bool {
      must := (ls.filter fun l => !l.negated).map Literal.fragment
      mustNot := (ls.filter fun l => l.negated).map Literal.fragment
      should := []
      filter := [] }
  alternatives : (∃ c ∈ cs.tail, c.combinator = .or) → ∃ entries,
    q = .bool { must := [], mustNot := [], should := entries, filter := [] } ∧
    2 ≤ entries.length ∧
    List.Forall₂ (fun run entry => run ≠ [] ∧
      ∃ rl, List.Forall₂ (fun c l => x.literal c = .ok l) run rl ∧ Literal.RunEntry rl entry)
      (Combinator.runs combinator cs) entries
  firstCombinator : ∀ c ds k, cs = c :: ds →
    x.result (compileList ({ c with combinator := k } :: ds)) = .ok q
  nonempty : ∀ g, q = .bool g → g.isEmpty = false
  nonempty_inside : ∀ c ds ms g, Within cs c → c.inner? = some ds →
    List.Forall₂ (fun d l => x.literal d = .ok l) ds ms →
    Query.ofLiterals ms = .bool g → g.isEmpty = false

theorem compileList_shape (x : Context) (cs : List Clause) (q : Query)
    (h : x.result (compileList cs) = .ok q) : ∃ ls, Shape x cs ls q := by
  obtain ⟨-, ls, hls, rfl⟩ := (x.result_compileList cs q).mp h
  refine ⟨ls, hls, ?_, ?_, ?_, ?_, ?_, fun g => Query.ofLiterals_ne_empty,
    fun c ds ms g _ _ _ => Query.ofLiterals_ne_empty⟩
  · rw [Query.ofLiterals_eq_matchAll]
    cases hls <;> simp
  · intro fragment
    rw [Query.ofLiterals_eq_bare]
    constructor
    · rintro ⟨k, rfl⟩
      obtain ⟨c, _, hc, hn, rfl⟩ := List.forall₂_cons_right_iff.mp hls
      obtain rfl := List.forall₂_nil_right_iff.mp hn
      exact ⟨c, _, rfl, rfl, rfl, rfl⟩
    · rintro ⟨c, ⟨k, n, f⟩, -, rfl, rfl, rfl⟩
      exact ⟨k, rfl⟩
  · intro ha hm hb
    have ha' : ∀ l ∈ ls.tail, l.combinator = .and := by
      intro l hl
      cases hk : l.combinator with
      | and => rfl
      | or =>
        obtain ⟨c, hc, ho⟩ := (exists_or_tail hls).mpr ⟨l, hl, hk⟩
        rw [ha c hc] at ho
        cases ho
    have hn : ls ≠ [] := fun hn => hm (Query.ofLiterals_eq_matchAll.mpr hn)
    rw [Query.ofLiterals_of_and hn ha'] at hb ⊢
    exact Literal.ofRun_of_ne hb
  · intro ho
    rw [exists_or_tail hls] at ho
    refine ⟨_, Query.ofLiterals_of_or ho, ?_, ?_⟩
    · rw [List.length_map]
      exact Combinator.two_le_length_runs ho
    · rw [List.forall₂_map_right_iff, List.forall₂_and_left]
      refine ⟨fun run hr => Combinator.ne_nil_of_mem_runs hr, ?_⟩
      refine (Context.runs_forall₂ hls).imp fun run rl hrl => ⟨rl, hrl, ?_⟩
      exact Literal.runEntry_ofRun rl
  · rintro c ds k rfl
    rw [compileList_cons_combinator]
    exact h

theorem compileList_shape_authored :
    Context.people.result (compileList authored) = .ok authoredQuery ∧
      ∃ ls, Shape .people authored ls authoredQuery :=
  ⟨rfl, compileList_shape .people authored authoredQuery rfl⟩

end Clause

end SearchCompiler
