import SearchCompiler.Aggregation.Levels
import SearchCompiler.Proofs.Dict
import SearchCompiler.Proofs.Lookup.Evaluation

/-! When a grouping compiles, and what its levels are made of. -/

namespace SearchCompiler

namespace Aggregation

variable {x : Context} {catalog : Catalog} {compileOther : Aggregation → Compile Json}

lemma keys_siblingsWith {as : List Aggregation} {compiled members : Options}
    (h : x.result (siblingsWith catalog compileOther compiled as) = .ok members) :
    (members.map Prod.fst).Perm (compiled.map Prod.fst ++ as.map Aggregation.key) := by
  induction as generalizing compiled with
  | nil =>
    obtain rfl := Except.ok.inj h
    rw [List.map_nil, List.append_nil]
  | cons a as ih =>
    rw [siblingsWith] at h
    split at h
    · cases h
    · rename_i hkey
      obtain ⟨fragment, -, h⟩ := (x.result_bind_eq_ok _ _ _).mp h
      have hnew : a.key ∉ compiled.map Prod.fst := fun hmem => hkey (Entries.hasKey_iff.mpr hmem)
      have hinsert : ((Entries.insert a.key fragment compiled).map Prod.fst).Perm
          (a.key :: compiled.map Prod.fst) := (Entries.perm_insert fragment hnew).map Prod.fst
      calc
        (members.map Prod.fst).Perm _ := ih h
        List.Perm _ (a.key :: compiled.map Prod.fst ++ as.map Aggregation.key) :=
          hinsert.append_right _
        List.Perm _ (compiled.map Prod.fst ++ (a :: as).map Aggregation.key) :=
          List.perm_middle.symm

lemma keys_compileList {as : List Aggregation} {members : Options}
    (h : x.result (compileList catalog as) = .ok members) :
    (members.map Prod.fst).Perm (as.map Aggregation.key) :=
  keys_siblingsWith h

lemma ascending_siblingsWith {as : List Aggregation} {compiled members : Options}
    (hasc : Entries.Ascending compiled)
    (h : x.result (siblingsWith catalog compileOther compiled as) = .ok members) :
    Entries.Ascending members := by
  induction as generalizing compiled with
  | nil =>
    obtain rfl := Except.ok.inj h
    exact hasc
  | cons a as ih =>
    rw [siblingsWith] at h
    split at h
    · cases h
    · obtain ⟨fragment, -, h⟩ := (x.result_bind_eq_ok _ _ _).mp h
      exact ih (Entries.ascending_insert a.key fragment hasc) h

lemma ascending_compileList {as : List Aggregation} {members : Options}
    (h : x.result (compileList catalog as) = .ok members) : Entries.Ascending members :=
  ascending_siblingsWith .nil h

lemma nodup_keys_of_compileList {as : List Aggregation} {members : Options}
    (h : x.result (compileList catalog as) = .ok members) : (as.map Aggregation.key).Nodup :=
  (keys_compileList h).nodup_iff.mp (Entries.nodup_keys (ascending_compileList h))

end Aggregation

namespace Grouping

variable {x : Context} {catalog : Catalog}

lemma compile_eq_ok {g : Grouping} {members : Options} :
    x.result (g.compile catalog) = .ok members ↔
      g.fields ≠ [] ∧ (∀ m ∈ g.metrics, catalog.isMetric m.type = true) ∧
      ∃ metrics, x.result (Aggregation.compileList catalog g.metrics) = .ok metrics ∧
        x.result (levels (g.size.getD x.settings.groupsSize) g.keys metrics g.fields) =
          .ok members := by
  rw [compile]
  cases hf : g.fields with
  | nil => simp
  | cons field fields =>
    cases hm : g.metrics.find? fun m => !catalog.isMetric m.type with
    | some m =>
      have hnot : ¬ ∀ m ∈ g.metrics, catalog.isMetric m.type = true := by
        intro hall
        have hm' : catalog.isMetric m.type = false := by simpa using List.find?_some hm
        rw [hall m (List.mem_of_find?_eq_some hm)] at hm'
        cases hm'
      simp [hnot]
    | none =>
      have hall : ∀ m ∈ g.metrics, catalog.isMetric m.type = true := by
        simpa using List.find?_eq_none.mp hm
      simp only [List.isEmpty_cons, Bool.false_eq_true, if_false, Context.result_read,
        Context.result_bind_eq_ok, ne_eq, reduceCtorEq, not_false_eq_true, true_and]
      exact ⟨fun h => ⟨hall, h⟩, fun h => h.2⟩

def around (inner : Options) (level : Json) : Json :=
  if inner.isEmpty then level else .object (Entries.insert "aggs" (.object inner) level.members)

variable {size : UInt64} {keys : List SortKey} {innermost : Options}

lemma levels_cons_eq_ok {field : String} {fields : List String} {members : Options} :
    x.result (levels size keys innermost (field :: fields)) = .ok members ↔
      ∃ inner column, x.result (levels size keys innermost fields) = .ok inner ∧
        x.result (Compile.lookUp field) = .ok column ∧
        members = [(field,
          around inner (Fragment.termsBuckets column size (orderOf keys field)))] := by
  simp only [levels, Context.result_bind_eq_ok]
  refine exists_congr fun inner => ?_
  rw [← exists_and_left]
  refine exists_congr fun column => and_congr_right fun _ => and_congr_right fun _ => ?_
  rw [around]
  split
  · rw [Context.result_pure, Except.ok.injEq, eq_comm]
  · rw [Context.result_pure, Except.ok.injEq, eq_comm]

lemma exists_levels_eq_ok {fields : List String} :
    (∃ members, x.result (levels size keys innermost fields) = .ok members) ↔
      ∀ field ∈ fields, ∃ column, x.result (Compile.lookUp field) = .ok column := by
  induction fields with
  | nil => simp [levels]
  | cons field fields ih =>
    simp only [levels_cons_eq_ok, List.forall_mem_cons, ← ih]
    constructor
    · rintro ⟨members, inner, column, hinner, hcolumn, -⟩
      exact ⟨⟨column, hcolumn⟩, inner, hinner⟩
    · rintro ⟨⟨column, hcolumn⟩, inner, hinner⟩
      exact ⟨_, inner, column, hinner, hcolumn, rfl⟩

lemma get?_terms_around (inner : Options) (column : String) (options : Options) :
    (around inner (Fragment.termsBuckets column size options)).get? "terms" ≠ none := by
  have hterms : (Fragment.termsBuckets column size options).get? "terms" ≠ none := by
    simp [Fragment.termsBuckets, Fragment.body, Json.single, Json.get?, Json.members, Entries.get?]
  rw [around]
  split
  · exact hterms
  · rw [Json.get?, Json.members, Entries.get?_insert_of_ne _ _ (by decide)]
    exact hterms

lemma get?_aggs_around {inner : Options} (hne : inner ≠ []) (level : Json) :
    (around inner level).get? "aggs" = some (.object inner) := by
  rw [around, if_neg (by simpa using hne)]
  exact Entries.get?_insert_self "aggs" _ _

end Grouping

end SearchCompiler
