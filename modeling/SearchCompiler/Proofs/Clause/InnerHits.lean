import SearchCompiler.Proofs.Clause.Leaves
import SearchCompiler.Proofs.Clause.Spelling
import SearchCompiler.Proofs.Lookup.Resolution

/-! What the inner hits of a nested scope are sorted by. The column of a sort key is taken below the
path of the scope before it is looked up, and so are the columns of the engine: `_score` is looked
up as a column of the inner documents. -/

namespace SearchCompiler

namespace Source

lemma no_dot_of_mem_engineColumns : ∀ column ∈ engineColumns, '.' ∉ column.toList := by
  decide

lemma below_not_mem_engineColumns (path column : String) :
    path ++ "." ++ column ∉ engineColumns := by
  intro h
  apply no_dot_of_mem_engineColumns _ h
  simp

lemma mem_engineColumns_of_pseudo {column : String} (h : column ∈ pseudoColumns) :
    column ∈ engineColumns := by
  have hsubset : pseudoColumns ⊆ engineColumns := by decide
  exact hsubset h

lemma covers_iff_of_pseudo {path column : String} (h : column ∈ pseudoColumns) :
    covers path column = true ↔ path = column := by
  rw [covers_iff]
  constructor
  · rintro (heq | ⟨rest, rfl⟩)
    · exact heq.symm
    · exact absurd (mem_engineColumns_of_pseudo h) (below_not_mem_engineColumns path rest)
  · rintro rfl
    exact .inl rfl

end Source

namespace SortKey

variable {k : SortKey}

def entry (k : SortKey) (field : String) : Json :=
  .single field (.object (Entries.insert "order" (.string k.direction.name)
    (Fragment.keep Fragment.Allowed.sortByField k.options)))

lemma entry_inj {field other : String} : k.entry field = k.entry other ↔ field = other := by
  refine ⟨fun h => ?_, congrArg k.entry⟩
  have hmembers := Json.object.inj h
  exact (Prod.mk.inj (List.cons.inj hmembers).1).1

structure ByEngine (k : SortKey) : Prop where
  subject : k.subject = .column
  column : k.column ∈ Source.pseudoColumns

lemma result_compile (x : Context) (h : k.subject = .column) :
    x.result k.compile = (x.run (Compile.lookUp k.column)).1.map k.entry := by
  rw [compile, h]
  change x.result (Compile.lookUp k.column >>= fun field => pure (k.entry field)) = _
  rw [x.result_bind]
  rfl

end SortKey

namespace Context

/-- What a key on a column of the engine sorts by. Alone it is taken as it is. In a nested scope
it stays so only if the path has the same name or an override says it; else the name below the path
goes through the rules of a look-up. -/
structure SortsBelow (x : Context) (path : String) (k : SortKey) : Prop where
  outside : x.result k.compile = .ok (k.entry k.column)
  survives : x.result (k.inScope path).compile = .ok (k.entry k.column) ↔
    path = k.column ∨ x.overrides.get? (path ++ "." ++ k.column) = some k.column
  overridden : path ≠ k.column → ∀ field,
    x.overrides.get? (path ++ "." ++ k.column) = some field →
    x.result (k.inScope path).compile = .ok (k.entry field)
  trusted : path ≠ k.column → x.overrides.get? (path ++ "." ++ k.column) = none →
    x.source.trusting = true →
    x.result (k.inScope path).compile = .ok (k.entry (path ++ "." ++ k.column))
  found : path ≠ k.column → x.LeftToMapping (path ++ "." ++ k.column) → ∀ t field,
    x.source.mapping x.memory = .ok t → t.Smallest (path ++ "." ++ k.column) field →
    x.result (k.inScope path).compile = .ok (k.entry field)
  missing : path ≠ k.column → x.LeftToMapping (path ++ "." ++ k.column) → ∀ t,
    x.source.mapping x.memory = .ok t → (¬ ∃ field, t.Exact (path ++ "." ++ k.column) field) →
    x.result (k.inScope path).compile =
      .error (.noExactField (path ++ "." ++ k.column) x.source.index)
  unread : path ≠ k.column → x.LeftToMapping (path ++ "." ++ k.column) → ∀ e,
    x.source.mapping x.memory = .error e → x.result (k.inScope path).compile = .error e

variable {x : Context} {path : String} {k : SortKey}

lemma covers_of_run_lookUp {column field : String} (hown : column ∉ Source.engineColumns)
    (hnone : x.overrides.get? column = none)
    (h : (x.run (Compile.lookUp column)).1 = .ok field) : covers column field = true := by
  by_cases htrust : x.source.trusting = true
  · rw [run_lookUp_of_trusting hown hnone htrust] at h
    exact covers_iff.mpr (.inl (Except.ok.inj h).symm)
  · have hleft : x.LeftToMapping column := ⟨hown, hnone, by simpa using htrust⟩
    rw [hleft.run_lookUp, Source.fields_fst] at h
    cases hm : x.source.mapping x.memory with
    | error e =>
      rw [hm] at h
      cases h
    | ok t =>
      rw [hm] at h
      have hfinds := FieldTable.finds_pathIn x.source t column
      obtain ⟨⟨type, -, hbelow, -⟩, -⟩ := (hfinds.path field).mp h
      exact covers_iff.mpr hbelow

section ByEngine

variable (hk : k.ByEngine)

include hk

lemma result_of_byEngine : x.result k.compile = .ok (k.entry k.column) := by
  rw [SortKey.result_compile x hk.subject,
    run_lookUp_of_wellKnown (Source.wellKnown?_of_pseudo hk.column)]
  rfl

lemma result_inScope_of_eq (heq : path = k.column) :
    x.result (k.inScope path).compile = .ok (k.entry k.column) := by
  have hscope : k.inScope path = k := by
    rw [SortKey.inScope, qualified_of_covers ((Source.covers_iff_of_pseudo hk.column).mpr heq)]
  rw [hscope, result_of_byEngine hk]

lemma result_inScope_of_ne (hne : path ≠ k.column) :
    x.result (k.inScope path).compile =
      (x.run (Compile.lookUp (path ++ "." ++ k.column))).1.map k.entry := by
  have hscope : k.inScope path = { k with column := path ++ "." ++ k.column } := by
    rw [SortKey.inScope,
      qualified_of_not_covers (mt (Source.covers_iff_of_pseudo hk.column).mp hne)]
  rw [hscope]
  exact SortKey.result_compile x hk.subject

lemma result_inScope_of_override (hne : path ≠ k.column) {field : String}
    (hfield : x.overrides.get? (path ++ "." ++ k.column) = some field) :
    x.result (k.inScope path).compile = .ok (k.entry field) := by
  have hown := Source.below_not_mem_engineColumns path k.column
  rw [result_inScope_of_ne hk hne, run_lookUp_of_override hown hfield]
  rfl

lemma result_inScope_of_mapping (hne : path ≠ k.column)
    (hleft : x.LeftToMapping (path ++ "." ++ k.column)) :
    x.result (k.inScope path).compile = ((x.source.mapping x.memory).bind
      (x.source.pathIn (path ++ "." ++ k.column))).map k.entry := by
  rw [result_inScope_of_ne hk hne, hleft.run_lookUp, Source.fields_fst]

lemma inScope_survives_iff : x.result (k.inScope path).compile = .ok (k.entry k.column) ↔
    path = k.column ∨ x.overrides.get? (path ++ "." ++ k.column) = some k.column := by
  have hown := Source.below_not_mem_engineColumns path k.column
  by_cases heq : path = k.column
  · exact iff_of_true (result_inScope_of_eq hk heq) (.inl heq)
  simp only [heq, false_or]
  cases hfield : x.overrides.get? (path ++ "." ++ k.column) with
  | some field =>
    rw [result_inScope_of_override hk heq hfield, Except.ok.injEq, SortKey.entry_inj,
      Option.some.injEq]
  | none =>
    simp only [reduceCtorEq, iff_false]
    intro h
    rw [result_inScope_of_ne hk heq] at h
    cases hlookup : (x.run (Compile.lookUp (path ++ "." ++ k.column))).1 with
    | error e =>
      rw [hlookup] at h
      cases h
    | ok field =>
      rw [hlookup] at h
      obtain rfl := SortKey.entry_inj.mp (Except.ok.inj h)
      -- without an override what is found is at or below the name, and that has a dot
      have hcovers := covers_of_run_lookUp hown hfield hlookup
      rw [Source.covers_iff_of_pseudo hk.column] at hcovers
      rw [hcovers] at hown
      exact hown (Source.mem_engineColumns_of_pseudo hk.column)

lemma sortsBelow (x : Context) (path : String) : x.SortsBelow path k := by
  have hown := Source.below_not_mem_engineColumns path k.column
  refine ⟨result_of_byEngine hk, inScope_survives_iff hk, ?_, ?_, ?_, ?_, ?_⟩
  · intro hne field hfield
    exact result_inScope_of_override hk hne hfield
  · intro hne hnone htrust
    rw [result_inScope_of_ne hk hne, run_lookUp_of_trusting hown hnone htrust]
    rfl
  · intro hne hleft t field ht hfield
    have hfinds := FieldTable.finds_pathIn x.source t (path ++ "." ++ k.column)
    rw [result_inScope_of_mapping hk hne hleft, ht]
    exact congrArg (Except.map k.entry) ((hfinds.path field).mpr hfield)
  · intro hne hleft t ht hnone
    have hfinds := FieldTable.finds_pathIn x.source t (path ++ "." ++ k.column)
    rw [result_inScope_of_mapping hk hne hleft, ht]
    exact congrArg (Except.map k.entry) (hfinds.missing.mpr hnone)
  · intro hne hleft e he
    rw [result_inScope_of_mapping hk hne hleft, he]
    rfl

end ByEngine

end Context

section InnerHits

variable {x : Context} {keys : List SortKey} {offset limit : Option UInt64} {path : String}
  {inner : Query} {options : Options}

lemma innerHits_eq_ok {fragment : Json} :
    x.result ((NestedForm.inner keys offset limit).compile path inner options) = .ok fragment ↔
      ∃ entries,
        List.Forall₂ (fun k entry => x.result (k.inScope path).compile = .ok entry) keys entries ∧
        fragment = Fragment.nested path inner.toJson
          (some (Fragment.innerHits entries offset limit)) options := by
  simp only [NestedForm.compile, innerHitsOf, SortKey.compileList, x.result_bind_eq_ok,
    x.result_pure, Context.result_mapM_eq_ok, List.forall₂_map_left_iff, Except.ok.injEq,
    exists_exists_and_eq_and]
  exact exists_congr fun entries => and_congr_right fun _ => eq_comm

lemma innerHits_eq_error {e : Failure} :
    x.result ((NestedForm.inner keys offset limit).compile path inner options) = .error e ↔
      ∃ front k back entries, keys = front ++ k :: back ∧
        List.Forall₂ (fun k entry => x.result (k.inScope path).compile = .ok entry) front entries ∧
        x.result (k.inScope path).compile = .error e := by
  simp only [NestedForm.compile, innerHitsOf, SortKey.compileList, x.result_bind_eq_error,
    x.result_pure, Context.result_mapM_eq_error, reduceCtorEq, and_false, exists_false, or_false]
  constructor
  · rintro ⟨front', k', back', entries, heq, hentries, he⟩
    obtain ⟨front, rest, rfl, rfl, hrest⟩ := List.map_eq_append_iff.mp heq
    obtain ⟨k, back, rfl, rfl, rfl⟩ := List.map_eq_cons_iff.mp hrest
    exact ⟨front, k, back, entries, rfl, List.forall₂_map_left_iff.mp hentries, he⟩
  · rintro ⟨front, k, back, entries, rfl, hentries, he⟩
    rw [List.map_append, List.map_cons]
    exact ⟨_, _, _, entries, rfl, List.forall₂_map_left_iff.mpr hentries, he⟩

end InnerHits

namespace Clause

structure SortsInnerHits (x : Context) (path : String) (clauses : List Clause)
    (keys : List SortKey) (offset limit : Option UInt64) (options : Options)
    (answer : Except Failure Assertion) : Prop where
  compiles : ∀ a, answer = .ok a ↔ ∃ ls entries,
    x.result (literals (some path) clauses) = .ok ls ∧
    List.Forall₂ (fun k entry => x.result (k.inScope path).compile = .ok entry) keys entries ∧
    a = ⟨Fragment.nested path (Query.ofLiterals ls).toJson
      (some (Fragment.innerHits entries offset limit)) options, false⟩
  fails : ∀ e, answer = .error e ↔ x.result (literals (some path) clauses) = .error e ∨
    (∃ ls, x.result (literals (some path) clauses) = .ok ls) ∧ ∃ front k back entries,
      keys = front ++ k :: back ∧
      List.Forall₂ (fun k entry => x.result (k.inScope path).compile = .ok entry) front entries ∧
      x.result (k.inScope path).compile = .error e
  pseudo : ∀ k ∈ keys, k.subject = .column → k.column ∈ ["_score", "_count", "_key", "_doc"] →
    x.SortsBelow path k

theorem sortsInnerHits (x : Context) (scope : Scope) (path : String) (clauses : List Clause)
    (keys : List SortKey) (offset limit : Option UInt64) (options : Options) :
    SortsInnerHits x (scope.column path) clauses keys offset limit options (x.result
      (formAssertion scope options (.nested (.inner keys offset limit) path clauses))) := by
  refine ⟨fun a => ?_, fun e => ?_, fun k _ hsubject hpseudo => ?_⟩
  · rw [formAssertion, x.result_bind_eq_ok]
    simp only [x.result_bind_eq_ok, x.result_pure, innerHits_eq_ok, Except.ok.injEq]
    constructor
    · rintro ⟨ls, hls, -, ⟨entries, hentries, rfl⟩, rfl⟩
      exact ⟨ls, entries, hls, hentries, rfl⟩
    · rintro ⟨ls, entries, hls, hentries, rfl⟩
      exact ⟨ls, hls, _, ⟨entries, hentries, rfl⟩, rfl⟩
  · rw [formAssertion, x.result_bind_eq_error]
    simp only [x.result_bind_eq_error, x.result_pure, innerHits_eq_error, reduceCtorEq, and_false,
      exists_false, or_false, exists_and_right]
  · exact Context.sortsBelow ⟨hsubject, hpseudo⟩ x _

def byScore : SortKey := { column := "_score", direction := .descending }

def ranked (keys : List SortKey) : Clause :=
  { form := .nested (.inner keys none none) "comments" [] }

/-- The comments have no column for the score: where columns are checked the clause fails for it,
and where they are trusted its hits are sorted by a field that does not exist. -/
theorem people_lose_score :
    Context.people.result (compileList [ranked []]) = .ok (.bare
      (Fragment.nested "comments" Fragment.matchAll (some (.object [])) [])) ∧
    Context.people.result (compileList [ranked [byScore]]) =
      .error (.noExactField "comments._score" "people") ∧
    { Context.people with source.trusting := true }.result (compileList [ranked [byScore]]) =
      .ok (.bare (Fragment.nested "comments" Fragment.matchAll
        (some (Fragment.innerHits [byScore.entry "comments._score"] none none)) [])) ∧
    byScore.entry "comments._score" ≠ byScore.entry "_score" := by
  refine ⟨rfl, rfl, rfl, fun h => ?_⟩
  exact absurd (SortKey.entry_inj.mp h) (by decide)

end Clause

end SearchCompiler
