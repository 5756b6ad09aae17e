import Mathlib.Data.List.Forall2
import SearchCompiler.Aggregation.Rows
import SearchCompiler.Proofs.Aggregation.Levels

/-! The rows of a grouping are read off the answer to its aggregations: one for each chain of
buckets from the outermost level to the innermost, with what was grouped by, counted and
measured. -/

namespace SearchCompiler

mutual

/-- The result answers an aggregation. What there is to say about it is said of terms: they have
buckets, and every bucket has its key, its count, and answers to the aggregations inside. -/
inductive Answers : Json → Json → Prop
  | plain {aggregation result} : aggregation.get? "terms" = none → Answers aggregation result
  | terms {aggregation result buckets} : result.get? "buckets" = some (.array buckets) →
      (∀ b ∈ buckets, b.get? "key" ≠ none) → (∀ b ∈ buckets, b.get? "doc_count" ≠ none) →
      (∀ inner, aggregation.get? "aggs" = some (.object inner) →
        ∀ b ∈ buckets, AnswersAll inner b) →
      Answers aggregation result

inductive AnswersAll : Options → Json → Prop
  | nil {node} : AnswersAll [] node
  | cons {name aggregation aggregations result node} : node.get? name = some result →
      Answers aggregation result → AnswersAll aggregations node →
      AnswersAll ((name, aggregation) :: aggregations) node

end

lemma AnswersAll.exists_get? {members : Options} {node : Json} (h : AnswersAll members node)
    {name : String} (hname : name ∈ members.map Prod.fst) :
    ∃ result, node.get? name = some result := by
  induction members with
  | nil => cases hname
  | cons m ms ih =>
    cases h with
    | cons hresult _ hrest =>
      rcases List.mem_cons.mp hname with rfl | hname
      · exact ⟨_, hresult⟩
      · exact ih hrest hname

namespace Rows

def chains : List String → Json → List (List Json)
  | [], _ => [[]]
  | field :: fields, node =>
    match (node.get? field).bind (·.get? "buckets") with
    | some (.array buckets) => buckets.flatMap fun b => (chains fields b).map (b :: ·)
    | _ => []

lemma chains_cons (field : String) (fields : List String) (node : Json) :
    chains (field :: fields) node =
      (buckets field node).flatMap fun b => (chains fields b).map (b :: ·) := by
  rw [chains, buckets]
  split
  · rename_i hb
    rw [hb]
    rfl
  · rename_i hb
    cases hl : (node.get? field).bind (·.get? "buckets") with
    | none => rfl
    | some v =>
      cases v with
      | array bs => exact (hb bs hl).elim
      | null | bool | number | string | object => rfl

lemma length_of_mem_chains {fields : List String} {node : Json} {chain : List Json}
    (h : chain ∈ chains fields node) : chain.length = fields.length := by
  induction fields generalizing node chain with
  | nil => rw [List.mem_singleton.mp h, List.length_nil, List.length_nil]
  | cons field fields ih =>
    rw [chains_cons] at h
    obtain ⟨b, -, h⟩ := List.mem_flatMap.mp h
    obtain ⟨rest, hrest, rfl⟩ := List.mem_map.mp h
    rw [List.length_cons, ih hrest, List.length_cons]

def writes (fields metrics : List String) (chain : List Json) : Options :=
  let innermost := chain.getLastD .null
  fields.zip (chain.map fun b => (b.get? "key").getD .null) ++
    (countMember, (innermost.get? "doc_count").getD (.int 0)) ::
      metrics.filterMap fun name => (innermost.get? name).map fun result => (name, measure result)

lemma withMeasures_eq (metrics : List String) (node : Json) (row : Options) :
    withMeasures metrics node row = Entries.insertAll
      (metrics.filterMap fun name => (node.get? name).map fun result => (name, measure result))
      row := by
  induction metrics generalizing row with
  | nil => rfl
  | cons name metrics ih =>
    rw [withMeasures, List.foldl_cons, ← withMeasures, ih, List.filterMap_cons]
    cases node.get? name <;> rfl

lemma below_eq_map_chains {fields : List String} (hne : fields ≠ []) (metrics : List String)
    (row : Options) (node : Json) :
    below metrics fields row node =
      (chains fields node).map fun chain =>
        Entries.insertAll (writes fields metrics chain) row := by
  induction fields generalizing row node with
  | nil => exact (hne rfl).elim
  | cons field fields ih =>
    rw [chains_cons, List.map_flatMap]
    cases fields with
    | nil =>
      have hone (b : Json) : complete metrics b (withKey field b row) =
          Entries.insertAll (writes [field] metrics [b]) row := withMeasures_eq metrics b _
      rw [below, List.map_eq_flatMap]
      exact List.flatMap_congr fun b _ => by rw [hone]; rfl
    | cons next fields =>
      rw [below]
      refine List.flatMap_congr fun b _ => ?_
      rw [ih (by simp), List.map_map]
      refine List.map_congr_left fun chain hchain => ?_
      have hlength : chain.length = (next :: fields).length := length_of_mem_chains hchain
      cases chain with
      | nil => cases hlength
      | cons c chain => rfl

lemma answered_of_mem_buckets {field column : String} {size : UInt64} {options inner : Options}
    {node b : Json} (h : AnswersAll
      [(field, Grouping.around inner (Fragment.termsBuckets column size options))] node)
    (hb : b ∈ buckets field node) :
    b.get? "key" ≠ none ∧ b.get? "doc_count" ≠ none ∧ AnswersAll inner b := by
  cases h with
  | cons hresult hanswers _ =>
    cases hanswers with
    | plain hterms => exact (Grouping.get?_terms_around inner column options hterms).elim
    | terms hbuckets hkey hcount hinner =>
      rw [buckets, hresult, Option.bind_some, hbuckets] at hb
      refine ⟨hkey b hb, hcount b hb, ?_⟩
      by_cases hne : inner = []
      · exact hne ▸ .nil
      · exact hinner inner (Grouping.get?_aggs_around hne _) b hb

variable {x : Context}

lemma answered_of_mem_chains {fields : List String} (hne : fields ≠ []) {size : UInt64}
    {keys : List SortKey} {innermost members : Options} {node : Json} {chain : List Json}
    (hl : x.result (Grouping.levels size keys innermost fields) = .ok members)
    (ha : AnswersAll members node) (hc : chain ∈ chains fields node) :
    (∀ b ∈ chain, b.get? "key" ≠ none) ∧
      ∃ b, chain.getLast? = some b ∧ b.get? "doc_count" ≠ none ∧ AnswersAll innermost b := by
  induction fields generalizing members node chain with
  | nil => exact (hne rfl).elim
  | cons field fields ih =>
    obtain ⟨inner, column, hinner, -, rfl⟩ := Grouping.levels_cons_eq_ok.mp hl
    rw [chains_cons] at hc
    obtain ⟨b, hb, hc⟩ := List.mem_flatMap.mp hc
    obtain ⟨rest, hrest, rfl⟩ := List.mem_map.mp hc
    obtain ⟨hkey, hcount, hanswers⟩ := answered_of_mem_buckets ha hb
    cases fields with
    | nil =>
      obtain rfl : innermost = inner := Except.ok.inj hinner
      obtain rfl : rest = [] := List.mem_singleton.mp hrest
      exact ⟨by simpa using hkey, b, rfl, hcount, hanswers⟩
    | cons next fields =>
      obtain ⟨hkeys, c, hlast, hcount, hanswers⟩ := ih (by simp) hinner hanswers hrest
      refine ⟨List.forall_mem_cons.mpr ⟨hkey, hkeys⟩, c, ?_, hcount, hanswers⟩
      rw [List.getLast?_cons, hlast]
      rfl

inductive Measures (result : Json) : Json → Prop
  | value {v} : result.get? "value" = some v → result.get? "values" = none → Measures result v
  | noValue : result.get? "value" = none → Measures result result
  | manyValues : result.get? "values" ≠ none → Measures result result

lemma measures_measure (result : Json) : Measures result (measure result) := by
  rw [measure]
  cases hvalue : result.get? "value" with
  | none => exact .noValue hvalue
  | some v =>
    cases hvalues : result.get? "values" with
    | none => exact .value hvalue hvalues
    | some vs => exact .manyValues (by simp [hvalues])

structure RowOf (fields metrics : List String) (chain : List Json) (row : Options) : Prop where
  length : chain.length = fields.length
  ascending : Entries.Ascending row
  members : ∃ keys innermost count results values,
    List.Forall₂ (fun b key => b.get? "key" = some key) chain keys ∧
    chain.getLast? = some innermost ∧
    innermost.get? "doc_count" = some count ∧
    List.Forall₂ (fun name result => innermost.get? name = some result) metrics results ∧
    List.Forall₂ Measures results values ∧
    row.Perm (fields.zip keys ++ ("_count", count) :: metrics.zip values)

lemma exists_forall₂_get? {α : Type} {f : α → Option Json} {as : List α}
    (h : ∀ a ∈ as, f a ≠ none) : ∃ vs, List.Forall₂ (fun a v => f a = some v) as vs := by
  induction as with
  | nil => exact ⟨[], .nil⟩
  | cons a as ih =>
    obtain ⟨hfirst, hrest⟩ := List.forall_mem_cons.mp h
    obtain ⟨v, hv⟩ := Option.ne_none_iff_exists'.mp hfirst
    obtain ⟨vs, hvs⟩ := ih hrest
    exact ⟨v :: vs, .cons hv hvs⟩

lemma map_getD_of_forall₂ {α : Type} {f : α → Option Json} {as : List α} {vs : List Json}
    (h : List.Forall₂ (fun a v => f a = some v) as vs) :
    (as.map fun a => (f a).getD .null) = vs := by
  induction h with
  | nil => rfl
  | cons hv _ ih => rw [List.map_cons, hv, ih]; rfl

lemma exists_measures {node : Json} {metrics : List String} {results : List Json}
    (h : List.Forall₂ (fun name result => node.get? name = some result) metrics results) :
    ∃ values, List.Forall₂ Measures results values ∧
      (metrics.filterMap fun name => (node.get? name).map fun result => (name, measure result)) =
        metrics.zip values := by
  induction h with
  | nil => exact ⟨[], .nil, rfl⟩
  | @cons name result _ _ hr _ ih =>
    obtain ⟨values, hvalues, hzip⟩ := ih
    refine ⟨measure result :: values, .cons (measures_measure result) hvalues, ?_⟩
    rw [List.filterMap_cons, hr, Option.map_some, hzip, List.zip_cons_cons]

lemma map_fst_members {fields metrics : List String} {keys values : List Json} (count : Json)
    (hkeys : fields.length = keys.length) (hvalues : metrics.length = values.length) :
    (fields.zip keys ++ (countMember, count) :: metrics.zip values).map Prod.fst =
      fields ++ countMember :: metrics := by
  rw [List.map_append, List.map_cons, List.map_fst_zip (Nat.le_of_eq hkeys),
    List.map_fst_zip (Nat.le_of_eq hvalues)]

lemma rowOf_insertAll {fields metrics : List String} {chain : List Json} {innermost : Json}
    (hnodup : (fields ++ countMember :: metrics).Nodup) (hlength : chain.length = fields.length)
    (hkeys : ∀ b ∈ chain, b.get? "key" ≠ none) (hlast : chain.getLast? = some innermost)
    (hcount : innermost.get? "doc_count" ≠ none)
    (hmetrics : ∀ name ∈ metrics, innermost.get? name ≠ none) :
    RowOf fields metrics chain (Entries.insertAll (writes fields metrics chain) []) := by
  obtain ⟨keys, hkeys⟩ := exists_forall₂_get? hkeys
  obtain ⟨count, hcount⟩ := Option.ne_none_iff_exists'.mp hcount
  obtain ⟨results, hresults⟩ := exists_forall₂_get? hmetrics
  obtain ⟨values, hvalues, hzip⟩ := exists_measures hresults
  have hwrites : writes fields metrics chain =
      fields.zip keys ++ (countMember, count) :: metrics.zip values := by
    have hd : chain.getLastD .null = innermost := by simp [List.getLastD_eq_getLast?, hlast]
    simp only [writes, hd, hcount, map_getD_of_forall₂ hkeys, hzip, Option.getD_some]
  have hperm : (Entries.insertAll (writes fields metrics chain) []).Perm
      (writes fields metrics chain ++ []) := by
    apply Entries.perm_insertAll
    rw [List.map_nil, List.append_nil, hwrites, map_fst_members count
      (hlength.symm.trans hkeys.length_eq) (hresults.length_eq.trans hvalues.length_eq)]
    exact hnodup
  refine ⟨hlength, Entries.ascending_insertAll _ .nil, keys, innermost, count, results, values,
    hkeys, hlast, hcount, hresults, hvalues, ?_⟩
  rw [List.append_nil] at hperm
  exact hwrites ▸ hperm

theorem ofResponse_rowOf {g : Grouping} {catalog : Catalog} {members : Options} {response : Json}
    {answer : Json} (hg : x.result (g.compile catalog) = .ok members)
    (hnodup : (g.fields ++ "_count" :: g.metrics.map Aggregation.key).Nodup)
    (hresponse : response.get? "aggregations" = some answer) (ha : AnswersAll members answer) :
    List.Forall₂ (RowOf g.fields (g.metrics.map Aggregation.key)) (chains g.fields answer)
      (ofResponse g.fields (g.metrics.map Aggregation.key) response) := by
  obtain ⟨hne, -, metrics, hmetrics, hlevels⟩ := Grouping.compile_eq_ok.mp hg
  have hkeys : (metrics.map Prod.fst).Perm (g.metrics.map Aggregation.key) :=
    Aggregation.keys_compileList hmetrics
  rw [ofResponse, outermost, hresponse, Option.getD_some, below_eq_map_chains hne,
    List.forall₂_map_right_iff, List.forall₂_same]
  intro chain hchain
  obtain ⟨hkey, innermost, hlast, hcount, hanswers⟩ := answered_of_mem_chains hne hlevels ha hchain
  refine rowOf_insertAll hnodup (length_of_mem_chains hchain) hkey hlast hcount ?_
  intro name hname
  obtain ⟨result, hresult⟩ := hanswers.exists_get? (hkeys.mem_iff.mpr hname)
  simp [hresult]

def shop : Context where
  source.index := "shop"
  source.provider := .ofTable "gone" .empty
  source.trusting := true

def byBrand : Grouping where
  fields := ["brand", "category"]
  metrics := [.ofField "revenue" "sum" "price"]

def byBrandLevels : Options :=
  let size : Json := .ofUInt64 1000
  let revenue : Json := .single "sum" (.single "field" (.string "price"))
  let category : Json := .object [("aggs", .single "revenue" revenue),
    ("terms", .object [("field", .string "category"), ("size", size)])]
  [("brand", .object [("aggs", .single "category" category),
    ("terms", .object [("field", .string "brand"), ("size", size)])])]

def sales : Json :=
  let bucket (key : String) (count : Int) (name : String) (inner : Json) : Json :=
    .object [("key", .string key), ("doc_count", .int count), (name, inner)]
  let buckets (bs : List Json) : Json := .single "buckets" (.array bs)
  .single "brand" (buckets [bucket "acme" 4 "category" (buckets [
    bucket "tools" 3 "revenue" (.single "value" (.int 30)),
    bucket "toys" 1 "revenue" (.single "value" (.int 5))])])

lemma answersAll_sales : AnswersAll byBrandLevels sales := by
  refine .cons rfl (.terms rfl ?_ ?_ ?_) .nil
  · simp [Json.get?, Json.members, Entries.get?]
  · simp [Json.get?, Json.members, Entries.get?]
  · intro inner hinner
    cases hinner
    refine List.forall_mem_singleton.mpr (.cons rfl (.terms rfl ?_ ?_ ?_) .nil)
    · simp [Json.get?, Json.members, Entries.get?]
    · simp [Json.get?, Json.members, Entries.get?]
    · intro inner hinner
      cases hinner
      have hrevenue {b : Json} {value : Json} (h : b.get? "revenue" = some value) :
          AnswersAll [("revenue", .single "sum" (.single "field" (.string "price")))] b :=
        .cons h (.plain rfl) .nil
      simp only [List.forall_mem_cons, List.not_mem_nil, false_implies, implies_true, and_true]
      exact ⟨hrevenue rfl, hrevenue rfl⟩

def salesRows : List Options :=
  let row (count : Int) (category : String) (revenue : Int) : Options :=
    [("_count", .int count), ("brand", .string "acme"), ("category", .string category),
      ("revenue", .int revenue)]
  [row 3 "tools" 30, row 1 "toys" 5]

theorem ofResponse_rowOf_sales :
    shop.result (byBrand.compile .standard) = .ok byBrandLevels ∧
    (byBrand.fields ++ "_count" :: byBrand.metrics.map Aggregation.key).Nodup ∧
    (Json.single "aggregations" sales).get? "aggregations" = some sales ∧
    AnswersAll byBrandLevels sales ∧
    ofResponse ["brand", "category"] ["revenue"] (.single "aggregations" sales) = salesRows ∧
    List.Forall₂ (RowOf ["brand", "category"] ["revenue"]) (chains ["brand", "category"] sales)
      salesRows := by
  have hg : shop.result (byBrand.compile .standard) = .ok byBrandLevels := rfl
  have hnodup : (byBrand.fields ++ "_count" :: byBrand.metrics.map Aggregation.key).Nodup := by
    decide
  have hresponse : (Json.single "aggregations" sales).get? "aggregations" = some sales := rfl
  have hrows : ofResponse ["brand", "category"] ["revenue"] (.single "aggregations" sales) =
      salesRows := rfl
  refine ⟨hg, hnodup, hresponse, answersAll_sales, hrows, ?_⟩
  rw [← hrows]
  exact ofResponse_rowOf hg hnodup hresponse answersAll_sales

end Rows

end SearchCompiler
