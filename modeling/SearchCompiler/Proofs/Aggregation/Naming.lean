import Mathlib.Data.List.Nodup
import SearchCompiler.Proofs.Aggregation.Rows

/-! What is called alike in a row. The fields of a grouping, the count and the metrics share the
names of a row; only the metrics are kept apart when the grouping compiles, and of all that is
written under one name the last stays. -/

namespace SearchCompiler

namespace Entries

variable {α : Type}

lemma get?_of_forall {name : String} {value : α} {ms : List (String × α)}
    (hmem : (name, value) ∈ ms) (hall : ∀ v, (name, v) ∈ ms → v = value) :
    get? name ms = some value := by
  cases hget : get? name ms with
  | some v => rw [hall v (mem_of_get? hget)]
  | none =>
    have hkey : hasKey name ms = true := hasKey_iff.mpr (List.mem_map_of_mem hmem)
    rw [hasKey, hget] at hkey
    cases hkey

lemma get?_reverse_zip {names : List String} {values : List α} {i : Nat} {name : String}
    {value : α} (hn : names[i]? = some name) (hv : values[i]? = some value)
    (hlast : name ∉ names.drop (i + 1)) : get? name (names.zip values).reverse = some value := by
  induction names generalizing values i with
  | nil => cases hn
  | cons first names ih =>
    cases values with
    | nil => cases hv
    | cons v values =>
      rw [List.zip_cons_cons, List.reverse_cons, get?_append]
      cases i with
      | zero =>
        obtain rfl := Option.some.inj hn
        obtain rfl := Option.some.inj hv
        have hnone : first ∉ ((names.zip values).reverse).map Prod.fst := by
          intro hmem
          rw [List.map_reverse, List.mem_reverse] at hmem
          obtain ⟨e, he, rfl⟩ := List.mem_map.mp hmem
          exact hlast (List.of_mem_zip (a := e.1) (b := e.2) he).1
        rw [get?_of_not_mem hnone, get?, if_pos rfl, Option.none_or]
      | succ i =>
        rw [ih hn hv hlast, Option.some_or]

end Entries

namespace Grouping

variable {x : Context} {catalog : Catalog}

lemma exists_compile_of_fields {g : Grouping} {members : Options}
    (hg : x.result (g.compile catalog) = .ok members) {fields : List String} (hne : fields ≠ [])
    (hfields : ∀ field ∈ fields, field ∈ g.fields ∨
      ∃ column, x.result (Compile.lookUp field) = .ok column) :
    ∃ members', x.result ({ g with fields }.compile catalog) = .ok members' := by
  obtain ⟨-, hmetrics, metrics, hcompiled, hlevels⟩ := compile_eq_ok.mp hg
  have hfound := exists_levels_eq_ok.mp ⟨members, hlevels⟩
  have hlevels' : ∃ members', x.result
      (levels (g.size.getD x.settings.groupsSize) g.keys metrics fields) = .ok members' :=
    exists_levels_eq_ok.mpr fun field hfield => (hfields field hfield).elim (hfound field) id
  obtain ⟨members', hlevels'⟩ := hlevels'
  exact ⟨members', compile_eq_ok.mpr ⟨hne, hmetrics, metrics, hcompiled, hlevels'⟩⟩

end Grouping

lemma Context.result_lookUp_count (x : Context) :
    x.result (Compile.lookUp Rows.countMember) = .ok Rows.countMember := by
  rw [x.result_eq_eval]
  rfl

namespace Rows

variable {fields metrics : List String} {chain : List Json} {row : Options}

/-- What a row has for a chain of buckets: each measure, the count unless a measure is called so,
and the key of a level unless a later level, the count or a measure is called as its field. -/
structure Keeps (fields metrics : List String) (chain : List Json) (row : Options) : Prop where
  measured : ∀ name ∈ metrics, ∀ result, (chain.getLastD .null).get? name = some result →
    Entries.get? name row = some (measure result)
  counted : (countMember ∈ metrics → (chain.getLastD .null).get? countMember = none) →
    Entries.get? countMember row =
      some (((chain.getLastD .null).get? "doc_count").getD (.int 0))
  grouped : ∀ i field bucket, fields[i]? = some field → chain[i]? = some bucket →
    field ∉ fields.drop (i + 1) → field ≠ countMember →
    (field ∈ metrics → (chain.getLastD .null).get? field = none) →
    Entries.get? field row = some ((bucket.get? "key").getD .null)

def measured (metrics : List String) (node : Json) : Options :=
  metrics.filterMap fun name => (node.get? name).map fun result => (name, measure result)

lemma mem_measured {node : Json} {name : String} {value : Json} :
    (name, value) ∈ measured metrics node ↔
      name ∈ metrics ∧ ∃ result, node.get? name = some result ∧ measure result = value := by
  simp only [measured, List.mem_filterMap, Option.map_eq_some_iff, Prod.mk.injEq]
  constructor
  · rintro ⟨name', hname', result, hresult, rfl, rfl⟩
    exact ⟨hname', result, hresult, rfl⟩
  · rintro ⟨hname, result, hresult, rfl⟩
    exact ⟨name, hname, result, hresult, rfl, rfl⟩

lemma get?_measured {node : Json} {name : String} {result : Json} (hname : name ∈ metrics)
    (hresult : node.get? name = some result) :
    Entries.get? name (measured metrics node).reverse = some (measure result) := by
  apply Entries.get?_of_forall
  · exact List.mem_reverse.mpr (mem_measured.mpr ⟨hname, result, hresult, rfl⟩)
  · intro value hvalue
    obtain ⟨-, result', hresult', rfl⟩ := mem_measured.mp (List.mem_reverse.mp hvalue)
    rw [Option.some.inj (hresult.symm.trans hresult')]

lemma get?_unmeasured {node : Json} {name : String}
    (h : name ∈ metrics → node.get? name = none) :
    Entries.get? name (measured metrics node).reverse = none := by
  apply Entries.get?_of_not_mem
  intro hmem
  obtain ⟨e, he, rfl⟩ := List.mem_map.mp hmem
  obtain ⟨hname, result, hresult, -⟩ := mem_measured.mp (List.mem_reverse.mp he)
  cases (h hname).symm.trans hresult

lemma writes_reverse (fields metrics : List String) (chain : List Json) :
    (writes fields metrics chain).reverse =
      (measured metrics (chain.getLastD .null)).reverse ++
        (countMember, ((chain.getLastD .null).get? "doc_count").getD (.int 0)) ::
          (fields.zip (chain.map fun b => (b.get? "key").getD .null)).reverse := by
  simp [writes, measured]

lemma keeps_insertAll (fields metrics : List String) (chain : List Json) :
    Keeps fields metrics chain (Entries.insertAll (writes fields metrics chain) []) := by
  have hrow (name : String) :
      Entries.get? name (Entries.insertAll (writes fields metrics chain) []) =
        (Entries.get? name (measured metrics (chain.getLastD .null)).reverse).or
          (Entries.get? name
            ((countMember, ((chain.getLastD .null).get? "doc_count").getD (.int 0)) ::
              (fields.zip (chain.map fun b => (b.get? "key").getD .null)).reverse)) := by
    rw [Entries.get?_insertAll, Entries.get?, Option.or_none, writes_reverse, Entries.get?_append]
  refine ⟨?_, ?_, ?_⟩
  · intro name hname result hresult
    rw [hrow, get?_measured hname hresult, Option.some_or]
  · intro hcount
    rw [hrow, get?_unmeasured hcount, Option.none_or, Entries.get?, if_pos rfl]
  · intro i field bucket hfield hbucket hlast hcount hmeasure
    have hkey : (chain.map fun b => (b.get? "key").getD .null)[i]? =
        some ((bucket.get? "key").getD .null) := by
      rw [List.getElem?_map, hbucket, Option.map_some]
    rw [hrow, get?_unmeasured hmeasure, Option.none_or, Entries.get?, if_neg hcount]
    exact Entries.get?_reverse_zip hfield hkey hlast

lemma forall₂_keeps (hne : fields ≠ []) (metrics : List String) (response : Json) :
    List.Forall₂ (Keeps fields metrics) (chains fields (outermost response))
      (ofResponse fields metrics response) := by
  rw [ofResponse, below_eq_map_chains hne, List.forall₂_map_right_iff, List.forall₂_same]
  intro chain _
  exact keeps_insertAll fields metrics chain

def names (g : Grouping) : List String :=
  g.fields ++ countMember :: g.metrics.map Aggregation.key

lemma nodup_names_iff {g : Grouping} (hmetrics : (g.metrics.map Aggregation.key).Nodup) :
    (names g).Nodup ↔ g.fields.Nodup ∧ countMember ∉ g.fields ∧
      ∀ m ∈ g.metrics, m.key ≠ countMember ∧ m.key ∉ g.fields := by
  rw [names, List.nodup_append', List.nodup_cons, List.disjoint_cons_right]
  simp only [hmetrics, and_true, List.mem_map, not_exists, not_and, List.disjoint_right,
    forall_exists_index, and_imp, forall_apply_eq_imp_iff₂]
  constructor
  · rintro ⟨hfields, hcount, hnew, hapart⟩
    exact ⟨hfields, hnew, fun m hm => ⟨hcount m hm, hapart m hm⟩⟩
  · rintro ⟨hfields, hnew, hmetric⟩
    exact ⟨hfields, fun m hm => (hmetric m hm).1, hnew, fun m hm => (hmetric m hm).2⟩

structure Named (x : Context) (catalog : Catalog) (g : Grouping) : Prop where
  metrics_nodup : (g.metrics.map Aggregation.key).Nodup
  nodup_iff : (names g).Nodup ↔ g.fields.Nodup ∧ countMember ∉ g.fields ∧
    ∀ m ∈ g.metrics, m.key ≠ countMember ∧ m.key ∉ g.fields
  keeps : ∀ response, List.Forall₂ (Keeps g.fields (g.metrics.map Aggregation.key))
    (chains g.fields (outermost response))
    (ofResponse g.fields (g.metrics.map Aggregation.key) response)
  accepts : ∀ fields, fields ≠ [] → (∀ field ∈ fields, field ∈ g.fields ∨ field = countMember) →
    ∃ members, x.result ({ g with fields }.compile catalog) = .ok members

variable {x : Context} {catalog : Catalog}

theorem named_of_compile {g : Grouping} {members : Options}
    (hg : x.result (g.compile catalog) = .ok members) : Named x catalog g := by
  obtain ⟨hne, -, metrics, hmetrics, -⟩ := Grouping.compile_eq_ok.mp hg
  have hnodup : (g.metrics.map Aggregation.key).Nodup :=
    Aggregation.nodup_keys_of_compileList hmetrics
  refine ⟨hnodup, ?_, forall₂_keeps hne _, ?_⟩
  · exact nodup_names_iff hnodup
  · intro fields hfields hmem
    refine Grouping.exists_compile_of_fields hg hfields fun field hfield => ?_
    rcases hmem field hfield with h | rfl
    · exact .inl h
    · exact .inr ⟨_, x.result_lookUp_count⟩

def byDearest : Grouping where
  fields := ["brand"]
  metrics := [.ofField "brand" "max" "price"]

def byDearestLevels : Options :=
  [("brand", .object [
    ("aggs", .single "brand" (.single "max" (.single "field" (.string "price")))),
    ("terms", .object [("field", .string "brand"), ("size", .ofUInt64 1000)])])]

lemma result_byDearest : shop.result (byDearest.compile .standard) = .ok byDearestLevels := rfl

theorem named_of_compile_byDearest :
    shop.result (byDearest.compile .standard) = .ok byDearestLevels ∧
      Named shop .standard byDearest :=
  ⟨result_byDearest, named_of_compile result_byDearest⟩

def dearest : Json :=
  .single "brand" (.single "buckets" (.array [.object
    [("key", .string "acme"), ("doc_count", .int 3), ("brand", .single "value" (.int 30))]]))

/-- The price stands where the brand should be. -/
theorem byDearest_loses_brand :
    shop.result (byDearest.compile .standard) = .ok byDearestLevels ∧
      ¬ (names byDearest).Nodup ∧
      ∃ row, ofResponse ["brand"] ["brand"] dearest = [row] ∧
        Entries.get? "brand" row = some (.int 30) := by
  have hclash : ¬ (names byDearest).Nodup := by decide
  exact ⟨result_byDearest, hclash, _, rfl, rfl⟩

end Rows

end SearchCompiler
