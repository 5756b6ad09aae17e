import SearchCompiler.Proofs.Clause.Meaning
import SearchCompiler.Proofs.Clause.Overload
import SearchCompiler.Proofs.Query.Parts

/-! A clause about related documents that asks both by a query and by a filter makes its whole tree
fail before any column is looked up. Without such a clause, what is asked of related documents
stands in the query, unless a function has taken the place of the query around it. -/

namespace SearchCompiler

namespace Context

def left {α : Type} (x : Context) (c : Compile α) : Memory :=
  ((c.overriding x.overrides x.settings).run x.source x.memory).2

end Context

namespace Clause

variable {x : Context} {cs : List Clause}

lemma left_of_overloaded {type : String} (h : firstOverloaded cs = some type) :
    x.left (compileList cs) = x.memory := by
  rw [compileList, h]
  rfl

lemma result_eq_overloaded
    (hp : ∀ type, x.source.provider x.source.index ≠ .error (.overloadedRelation type))
    {type : String} :
    x.result (compileList cs) = .error (.overloadedRelation type) ↔
      firstOverloaded cs = some type := by
  rw [compileList]
  cases hc : firstOverloaded cs with
  | some type' => simp
  | none =>
    constructor
    · intro he
      have hw : Compile.FailsWithin Failure.Unrelated
          (literals none cs >>= fun ls => pure (Query.ofLiterals ls)) :=
        (literals_unrelated none cs).bind fun ls => .pure (Query.ofLiterals ls)
      have hu : Failure.Unrelated (.overloadedRelation type) := by
        refine Context.cause_of_result_eq_error hw (fun _ => rfl) ?_ he
        intro e hfetch
        cases e with
        | overloadedRelation type' => exact (hp type' hfetch).elim
        | _ => rfl
      cases hu
    · intro he
      cases he

def IsPlacedAs (c d : Clause) : Prop :=
  d = c ∨ ∃ path, d = c.inScope path

lemma IsPlacedAs.eq_related {c d : Clause} (h : c.IsPlacedAs d) {relative : Relative}
    {type : String} {query filter : List Clause}
    (hc : c.form = .related relative type query filter) :
    d.form = .related relative type query filter ∧ d.options = c.options := by
  obtain ⟨form, combinator, negate, options⟩ := c
  obtain rfl : form = .related relative type query filter := hc
  rcases h with rfl | ⟨path, rfl⟩
  · exact ⟨rfl, rfl⟩
  · exact ⟨rfl, rfl⟩

lemma IsPlacedAs.hidesQuery {c d : Clause} (h : c.IsPlacedAs d) (hd : d.HidesQuery) :
    c.HidesQuery := by
  rcases h with rfl | ⟨path, rfl⟩
  · exact hd
  · obtain ⟨form, combinator, negate, options⟩ := c
    obtain ⟨params, clauses, hform⟩ := hd
    cases form with
    | functionScore function params' clauses' => exact ⟨params, clauses, hform⟩
    | condition | nested | related => cases hform

lemma inner?_nested {form : NestedForm} {path : String} {clauses : List Clause}
    (h : clauses ≠ []) (combinator : Combinator) (negate : Bool) (options : Options) :
    inner? ⟨.nested form path clauses, combinator, negate, options⟩ =
      some (clauses.map fun d => d.inScope path) := by
  cases form with
  | plain | inner => rfl
  | required =>
    cases clauses with
    | nil => exact (h rfl).elim
    | cons c cs => rfl

lemma IsPlacedAs.exists_part {b c d : Clause} (h : c.IsPlacedAs d)
    (ho : ∀ type, ¬ c.Overloads type) (hb : b ∈ c.parts) :
    ∃ ds e, d.inner? = some ds ∧ e ∈ ds ∧ b.IsPlacedAs e := by
  obtain ⟨form, combinator, negate, options⟩ := c
  cases form with
  | condition c => cases hb
  | nested form path clauses =>
    have hinner (path : String) : inner? ⟨.nested form path clauses, combinator, negate, options⟩ =
        some (clauses.map fun d => d.inScope path) :=
      inner?_nested (List.ne_nil_of_mem hb) combinator negate options
    have hmem (path : String) : b.inScope path ∈ clauses.map fun d => d.inScope path :=
      List.mem_map_of_mem hb
    rcases h with rfl | ⟨path', rfl⟩
    · exact ⟨_, _, hinner path, hmem path, .inr ⟨path, rfl⟩⟩
    · exact ⟨_, _, hinner (qualified path' path), hmem _, .inr ⟨_, rfl⟩⟩
  | functionScore function params clauses =>
    refine ⟨clauses, b, ?_, hb, .inl rfl⟩
    rcases h with rfl | ⟨path, rfl⟩ <;> rfl
  | related relative type query filter =>
    refine ⟨if filter.isEmpty then query else filter, b, ?_, ?_, .inl rfl⟩
    · rcases h with rfl | ⟨path, rfl⟩ <;> rfl
    · have hone : query = [] ∨ filter = [] := by
        by_contra hne
        push Not at hne
        exact ho type ⟨relative, query, filter, rfl, hne⟩
      rcases hone with rfl | rfl
      · cases filter with
        | nil => cases hb
        | cons c cs => exact hb
      · simpa [parts] using hb

lemma partOf_innerFragment (c : Clause) (q : Query) : q.toJson.PartOf (c.innerFragment q) := by
  rw [innerFragment]
  split
  · exact Fragment.partOf_bool (.inr (.inr (.inr (List.mem_singleton.mpr rfl))))
  · exact .refl

end Clause

lemma Json.partOf_of_queryMember {fragment query : Json} (h : fragment.queryMember = some query) :
    query.PartOf fragment := by
  unfold queryMember at h
  split at h
  · rename_i kind body
    cases body with
    | object ms => exact .member (List.mem_singleton.mpr rfl) (Json.partOf_of_get? h)
    | null | bool | number | string | array => cases h
  · cases h

namespace Clause

variable {x : Context} {cs : List Clause}

lemma partOf_of_mem {c : Clause} {a : Assertion} {ls : List Literal}
    (hls : List.Forall₂ (fun c l => x.literal c = .ok l) cs ls) (hc : c ∈ cs)
    (ha : x.result (c.assertion none) = .ok a) :
    a.fragment.PartOf (Query.ofLiterals ls).toJson := by
  obtain ⟨l, hmem, hl⟩ := Context.exists_literal hls hc
  obtain ⟨a', ha', rfl⟩ := (x.literal_eq_ok c l).mp hl
  obtain rfl := Except.ok.inj (ha.symm.trans ha')
  exact Literal.partOf_ofLiterals hmem

/-- The clauses of a tree at any depth, but for those whose query a function has replaced. -/
inductive Shown (cs : List Clause) : Clause → Prop
  | top {c} : c ∈ cs → Shown cs c
  | inside {c d} : Shown cs c → ¬ c.HidesQuery → d ∈ c.parts → Shown cs d

lemma Shown.occurs {c : Clause} (h : Shown cs c) : Occurs cs c := by
  induction h with
  | top hc => exact .top hc
  | inside _ _ hd ih => exact ih.inside hd

lemma Shown.exists_partOf {c : Clause} {ls : List Literal} (h : Shown cs c)
    (hls : List.Forall₂ (fun c l => x.literal c = .ok l) cs ls)
    (ho : ∀ c type, Occurs cs c → ¬ c.Overloads type) :
    ∃ d a, c.IsPlacedAs d ∧ x.result (d.assertion none) = .ok a ∧
      a.fragment.PartOf (Query.ofLiterals ls).toJson := by
  -- down from the list: the fragment of the clause around this one is in the query already
  induction h with
  | @top c hc =>
    obtain ⟨a, ha⟩ := exists_assertion hls hc
    exact ⟨c, a, .inl rfl, ha, partOf_of_mem hls hc ha⟩
  | @inside c b hc hshow hb ih =>
    obtain ⟨d, a, hplaced, ha, hpart⟩ := ih
    obtain ⟨ds, e, hinner, he, heplaced⟩ :=
      hplaced.exists_part (fun type => ho c type hc.occurs) hb
    obtain ⟨ms, hms, hencloses⟩ := x.exists_inner ha hinner
    obtain ⟨a', ha'⟩ := exists_assertion hms he
    have hmember : a.fragment.queryMember = some (d.innerFragment (Query.ofLiterals ms)) :=
      hencloses.queryMember fun hhide => hshow (hplaced.hidesQuery hhide)
    refine ⟨e, a', heplaced, ha', ?_⟩
    calc
      a'.fragment.PartOf (Query.ofLiterals ms).toJson := partOf_of_mem hms he ha'
      Json.PartOf _ (d.innerFragment (Query.ofLiterals ms)) := partOf_innerFragment d _
      Json.PartOf _ a.fragment := Json.partOf_of_queryMember hmember
      Json.PartOf _ _ := hpart

lemma Shown.exists_related {c : Clause} {q : Query} {relative : Relative} {type : String}
    {query filter : List Clause} (h : Shown cs c) (hq : x.result (compileList cs) = .ok q)
    (hc : c.form = .related relative type query filter) :
    ∃ ms, List.Forall₂ (fun d l => x.literal d = .ok l)
        (if filter.isEmpty then query else filter) ms ∧
      (relative.fragment type (c.innerFragment (Query.ofLiterals ms)) c.options).PartOf
        q.toJson := by
  obtain ⟨hnone, ls, hls, rfl⟩ := (x.result_compileList cs q).mp hq
  obtain ⟨d, a, hplaced, ha, hpart⟩ := h.exists_partOf hls (firstOverloaded_eq_none.mp hnone)
  obtain ⟨hd, hoptions⟩ := hplaced.eq_related hc
  have hinner : d.inner? = some (if filter.isEmpty then query else filter) := by
    rw [inner?, hd]
  obtain ⟨ms, hms, hencloses⟩ := x.exists_inner ha hinner
  have hsame : d.innerFragment (Query.ofLiterals ms) = c.innerFragment (Query.ofLiterals ms) := by
    rw [innerFragment, innerFragment, hd, hc]
  refine ⟨ms, hms, ?_⟩
  rw [Encloses, hd, hoptions, hsame] at hencloses
  exact hencloses ▸ hpart

/-- What becomes of the clauses about related documents in a list of clauses: one with a query and a
filter is reported, the first of the tree if there are several, and otherwise all are kept. -/
structure ChecksRelated (x : Context) (cs : List Clause) : Prop where
  fails_iff : (∃ type, x.result (compileList cs) = .error (.overloadedRelation type)) ↔
    ∃ c type, Occurs cs c ∧ c.Overloads type
  first : ∀ type, x.result (compileList cs) = .error (.overloadedRelation type) →
    ∃ before c after, listPreorder cs = before ++ c :: after ∧ c.Overloads type ∧
      ∀ b ∈ before, ∀ type, ¬ b.Overloads type
  message : ∀ type, (Failure.overloadedRelation type).message? =
    some s!"Malformed relationship clause: '{type}' sets both a query and a filter"
  untouched : ∀ type, x.result (compileList cs) = .error (.overloadedRelation type) →
    x.left (compileList cs) = x.memory
  keeps_query : ∀ q, x.result (compileList cs) = .ok q → ∀ c relative type query filter,
    Shown cs c → c.form = .related relative type query filter → query ≠ [] →
      ∃ ls, List.Forall₂ (fun d l => x.literal d = .ok l) query ls ∧
        (relative.fragment type (Query.ofLiterals ls).toJson c.options).PartOf q.toJson
  keeps_filter : ∀ q, x.result (compileList cs) = .ok q → ∀ c relative type query filter,
    Shown cs c → c.form = .related relative type query filter → filter ≠ [] →
      ∃ ls, List.Forall₂ (fun d l => x.literal d = .ok l) filter ls ∧
        (relative.fragment type (Fragment.bool [] [] [] [(Query.ofLiterals ls).toJson])
          c.options).PartOf q.toJson

theorem compileList_checksRelated (x : Context) (cs : List Clause)
    (hp : ∀ type, x.source.provider x.source.index ≠ .error (.overloadedRelation type)) :
    ChecksRelated x cs := by
  have hfails {type : String} : x.result (compileList cs) = .error (.overloadedRelation type) ↔
      firstOverloaded cs = some type := result_eq_overloaded hp
  constructor
  · simp only [hfails]
    constructor
    · rintro ⟨type, htype⟩
      obtain ⟨before, c, after, hcs, hc, -⟩ := firstOverloaded_eq_some.mp htype
      have hmem : c ∈ listPreorder cs := by simp [hcs]
      exact ⟨c, type, mem_listPreorder_iff_occurs.mp hmem, hc⟩
    · rintro ⟨c, type, hc, hover⟩
      cases hfirst : firstOverloaded cs with
      | some type' => exact ⟨type', rfl⟩
      | none => exact (firstOverloaded_eq_none.mp hfirst c type hc hover).elim
  · intro type htype
    exact firstOverloaded_eq_some.mp (hfails.mp htype)
  · exact fun type => rfl
  · intro type htype
    exact left_of_overloaded (hfails.mp htype)
  · intro q hq c relative type query filter hc hform hquery
    have hfilter : filter = [] := by
      by_contra hfilter
      have hnone := ((x.result_compileList cs q).mp hq).1
      exact firstOverloaded_eq_none.mp hnone c type hc.occurs
        ⟨relative, query, filter, hform, hquery, hfilter⟩
    obtain ⟨ls, hls, hpart⟩ := hc.exists_related hq hform
    rw [innerFragment, hform, hfilter] at hpart
    exact ⟨ls, by simpa [hfilter] using hls, hpart⟩
  · intro q hq c relative type query filter hc hform hfilter
    obtain ⟨ls, hls, hpart⟩ := hc.exists_related hq hform
    obtain ⟨d, ds, rfl⟩ := List.exists_cons_of_ne_nil hfilter
    rw [innerFragment, hform] at hpart
    exact ⟨ls, hls, hpart⟩

lemma people_unrelated (type : String) :
    Context.people.source.provider Context.people.source.index ≠
      .error (.overloadedRelation type) := by
  intro h
  cases h

def muddled : List Clause := [
  .ofCondition (.onDay "born" .eq (.string "soon")),
  .nested "comments" [
    { form := .related .child "comment" [.ofCondition (.present "body")]
        [.ofCondition (.present "body")] }]]

theorem compileList_checksRelated_muddled :
    (∀ type, Context.people.source.provider Context.people.source.index ≠
      .error (.overloadedRelation type)) ∧
    Context.people.result (compileList muddled) = .error (.overloadedRelation "comment") ∧
    ChecksRelated .people muddled :=
  ⟨people_unrelated, rfl, compileList_checksRelated .people muddled people_unrelated⟩

def rusty : Clause := .ofCondition (.text .words "body" (.string "rust"))

def hidden : List Clause := [
  { form := .functionScore "query" (.object []) [
      { form := .related .child "comment" [rusty] [] }] }]

theorem compileList_hidden_loses_related :
    (∀ type, Context.people.source.provider Context.people.source.index ≠
      .error (.overloadedRelation type)) ∧
    ∃ q c, Context.people.result (compileList hidden) = .ok q ∧ Occurs hidden c ∧
      c.form = .related .child "comment" [rusty] [] ∧
      ∀ ls, List.Forall₂ (fun d l => Context.people.literal d = .ok l) [rusty] ls →
        ¬ (Query.ofLiterals ls).toJson.PartOf q.toJson := by
  refine ⟨people_unrelated, _, _, rfl, .inside (.top (List.mem_singleton.mpr rfl))
    (List.mem_singleton.mpr rfl), rfl, ?_⟩
  intro ls hls hpart
  obtain ⟨l, ms, hl, hms, rfl⟩ := List.forall₂_cons_left_iff.mp hls
  obtain rfl := List.forall₂_nil_left_iff.mp hms
  obtain rfl : Literal.mk .and false (Fragment.words "body" (.string "rust") []) = l :=
    Except.ok.inj hl
  change Json.PartOf (.object [("match", .object [("body", .string "rust")])])
    (.object [("function_score", .object [("query", .object [])])]) at hpart
  simp [Json.partOf_object] at hpart

end Clause

end SearchCompiler
