import SearchCompiler.Aggregation.Levels
import SearchCompiler.Proofs.Aggregation.Catalog
import SearchCompiler.Proofs.Clause.Options

/-! Aggregations of the standard types, and groupings, compile as they do without the options that
their fragments do not take. -/

namespace SearchCompiler

open Fragment

namespace Arguments

def stripped : Arguments → Arguments
  | .filter clauses => .filter (Clause.listStripped clauses)
  | args => args

end Arguments

namespace Aggregation

def allowed : String → List String
  | "top_hits" => Allowed.topHits
  | "terms" => Allowed.termsBuckets
  | "date_histogram" => Allowed.dateHistogram
  | "histogram" => Allowed.histogram
  | "composite" => Allowed.compositeBuckets
  | "range" | "date_range" => Allowed.rangeBuckets
  | type => if type ∈ Catalog.plainMetrics then Allowed.metric else []

mutual

/-- The aggregation with only the options that its fragment takes, and so at every depth. -/
def stripped : Aggregation → Aggregation
  | ⟨key, type, args, options, children⟩ =>
    ⟨key, type, args.stripped, keep (allowed type) options, listStripped children⟩

def listStripped : List Aggregation → List Aggregation
  | [] => []
  | a :: as => stripped a :: listStripped as

end

lemma key_stripped (a : Aggregation) : a.stripped.key = a.key := by
  cases a
  rfl

lemma type_stripped (a : Aggregation) : a.stripped.type = a.type := by
  cases a
  rfl

lemma args_stripped (a : Aggregation) : a.stripped.args = a.args.stripped := by
  cases a
  rfl

lemma options_stripped (a : Aggregation) :
    a.stripped.options = keep (allowed a.type) a.options := by
  cases a
  rfl

lemma listStripped_eq_map (as : List Aggregation) : listStripped as = as.map stripped := by
  induction as with
  | nil => rfl
  | cons a as ih => rw [listStripped, ih, List.map_cons]

lemma isEmpty_listStripped (as : List Aggregation) : (listStripped as).isEmpty = as.isEmpty := by
  cases as <;> rfl

end Aggregation

namespace Method

def ReadsAllowed (type : String) (method : Method) : Prop :=
  ∀ other a, a.type = type → method other a.stripped = method other a

lemma lacking_stripped {α : Type} (a : Aggregation) (requirement : Requirement) :
    (lacking a.stripped requirement : Compile α) = lacking a requirement := by
  rw [lacking, lacking, Aggregation.key_stripped, Aggregation.type_stripped]

lemma lookUpField_stripped (a : Aggregation) : lookUpField a.stripped = lookUpField a := by
  rw [lookUpField, lookUpField, Aggregation.args_stripped, lacking_stripped]
  cases a.args <;> rfl

lemma metric_readsAllowed {type : String} (ht : type ∈ Catalog.plainMetrics) :
    ReadsAllowed type metric := by
  rintro other a rfl
  have hmetrics : ∀ type ∈ Catalog.plainMetrics, Aggregation.allowed type = Allowed.metric := by
    decide
  have hallowed : Aggregation.allowed a.type = Allowed.metric := hmetrics _ ht
  have hscript : Entries.hasKey "script" (keep Allowed.metric a.options) =
      Entries.hasKey "script" a.options := hasKey_keep (by decide) a.options
  simp only [metric, direct, Aggregation.args_stripped, Aggregation.type_stripped,
    Aggregation.options_stripped, hallowed, hscript, Fragment.metric, keep_keep, lacking_stripped]
  cases a.args <;> rfl

lemma count_readsAllowed : ReadsAllowed "count" count := by
  intro other a _
  simp only [count, direct, lookUpField_stripped]

lemma topHits_readsAllowed : ReadsAllowed "top_hits" topHits := by
  intro other a ha
  have hallowed : Aggregation.allowed "top_hits" = Allowed.topHits := rfl
  simp only [topHits, direct, Aggregation.options_stripped, ha, hallowed, Fragment.topHits,
    keep_keep]

lemma terms_readsAllowed : ReadsAllowed "terms" terms := by
  intro other a ha
  have hallowed : Aggregation.allowed "terms" = Allowed.termsBuckets := rfl
  simp only [terms, direct, lookUpField_stripped, Aggregation.options_stripped, ha, hallowed,
    termsBuckets, keep_keep]

lemma dateHistogram_readsAllowed : ReadsAllowed "date_histogram" dateHistogram := by
  intro other a ha
  have hallowed : Aggregation.allowed "date_histogram" = Allowed.dateHistogram := rfl
  simp only [dateHistogram, direct, Aggregation.args_stripped, Aggregation.options_stripped, ha,
    hallowed, Fragment.dateHistogram, keep_keep, lacking_stripped]
  cases a.args <;> rfl

lemma histogram_readsAllowed : ReadsAllowed "histogram" histogram := by
  intro other a ha
  have hallowed : Aggregation.allowed "histogram" = Allowed.histogram := rfl
  have hinterval : Entries.hasKey "interval" (keep Allowed.histogram a.options) =
      Entries.hasKey "interval" a.options := hasKey_keep (by decide) a.options
  simp only [histogram, direct, lookUpField_stripped, Aggregation.options_stripped, ha, hallowed,
    hinterval, Fragment.histogram, keep_keep, lacking_stripped]

lemma filter_readsAllowed : ReadsAllowed "filter" filter := by
  intro other a _
  simp only [filter, direct, Aggregation.args_stripped, lacking_stripped]
  cases a.args with
  | filter clauses => simp only [Arguments.stripped, Clause.compileList_stripped]
  | _ => rfl

lemma nested_readsAllowed : ReadsAllowed "nested" nested := by
  intro other a _
  simp only [nested, direct, Aggregation.args_stripped, lacking_stripped]
  cases a.args <;> rfl

lemma reverseNested_readsAllowed : ReadsAllowed "reverse_nested" reverseNested := by
  intro other a _
  simp only [reverseNested, direct, Aggregation.args_stripped, lacking_stripped]
  cases a.args <;> rfl

lemma composite_readsAllowed : ReadsAllowed "composite" composite := by
  intro other a ha
  have hallowed : Aggregation.allowed "composite" = Allowed.compositeBuckets := rfl
  simp only [composite, direct, Aggregation.args_stripped, Aggregation.options_stripped, ha,
    hallowed, compositeBuckets, keep_keep, lacking_stripped]
  cases a.args <;> rfl

lemma range_readsAllowed {type : String}
    (hallowed : Aggregation.allowed type = Allowed.rangeBuckets) : ReadsAllowed type range := by
  rintro other a rfl
  simp only [range, direct, Aggregation.args_stripped, Aggregation.type_stripped,
    Aggregation.options_stripped, hallowed, rangeBuckets, keep_keep, lacking_stripped]
  cases a.args <;> rfl

lemma missing_readsAllowed : ReadsAllowed "missing" missing := by
  intro other a _
  simp only [missing, direct, lookUpField_stripped]

lemma raw_readsAllowed : ReadsAllowed "raw" raw := by
  intro other a _
  simp only [raw, direct, Aggregation.args_stripped, lacking_stripped]
  cases a.args <;> rfl

end Method

lemma Catalog.standard_readsAllowed {type : String} {method : Method}
    (h : standard.method? type = some method) : Method.ReadsAllowed type method :=
  standard_cases (P := Method.ReadsAllowed) h (fun _ ht => Method.metric_readsAllowed ht)
    Method.count_readsAllowed Method.topHits_readsAllowed Method.terms_readsAllowed
    Method.dateHistogram_readsAllowed Method.histogram_readsAllowed Method.filter_readsAllowed
    Method.nested_readsAllowed Method.reverseNested_readsAllowed Method.composite_readsAllowed
    (Method.range_readsAllowed rfl) (Method.range_readsAllowed rfl) Method.missing_readsAllowed
    Method.raw_readsAllowed

namespace Aggregation

variable {other : Aggregation → Compile Json}

mutual

lemma compileWith_stripped : (a : Aggregation) →
    compileWith .standard other a.stripped = compileWith .standard other a
  | ⟨key, type, args, options, children⟩ => by
    rw [stripped, compileWith, compileWith, isEmpty_listStripped]
    cases hm : Catalog.standard.method? type with
    | none => rfl
    | some method =>
      have hmethod :=
        Catalog.standard_readsAllowed hm other ⟨key, type, args, options, children⟩ rfl
      rw [stripped] at hmethod
      simp only [hmethod, siblingsWith_stripped children]

lemma siblingsWith_stripped : (as : List Aggregation) → ∀ {compiled : Options},
    siblingsWith .standard other compiled (listStripped as) =
      siblingsWith .standard other compiled as
  | [], _ => rfl
  | a :: as, compiled => by
    rw [listStripped, siblingsWith, siblingsWith, key_stripped, compileWith_stripped]
    simp only [siblingsWith_stripped as]

end

lemma compileList_stripped (as : List Aggregation) :
    compileList .standard (listStripped as) = compileList .standard as :=
  siblingsWith_stripped as

end Aggregation

namespace Grouping

def stripped (g : Grouping) : Grouping where
  fields := g.fields
  metrics := Aggregation.listStripped g.metrics
  keys := g.keys.map fun k => { k with options := [] }
  size := g.size

lemma orderOf_stripped (keys : List SortKey) (field : String) :
    orderOf (keys.map fun k => { k with options := [] }) field = orderOf keys field := by
  have hfind (column : String) :
      (keys.map fun k => { k with options := [] }).find? (fun k => k.column == column) =
        (keys.find? fun k => k.column == column).map fun k => { k with options := [] } :=
    List.find?_map
  simp only [orderOf, hfind]
  cases keys.find? fun k => k.column == field with
  | some k => rfl
  | none => cases keys.find? fun k => k.column == countName <;> rfl

lemma levels_stripped (size : UInt64) (keys : List SortKey) (innermost : Options)
    (fields : List String) :
    levels size (keys.map fun k => { k with options := [] }) innermost fields =
      levels size keys innermost fields := by
  induction fields with
  | nil => rfl
  | cons field fields ih => simp only [levels, ih, orderOf_stripped]

lemma compile_stripped (g : Grouping) : g.stripped.compile .standard = g.compile .standard := by
  have hfind : (Aggregation.listStripped g.metrics).find?
        (fun m => !Catalog.standard.isMetric m.type) =
      (g.metrics.find? fun m => !Catalog.standard.isMetric m.type).map Aggregation.stripped := by
    rw [Aggregation.listStripped_eq_map, List.find?_map]
    congr 2
    funext m
    rw [Function.comp_apply, Aggregation.type_stripped]
  simp only [compile, stripped, hfind, Aggregation.compileList_stripped, levels_stripped]
  cases g.metrics.find? fun m => !Catalog.standard.isMetric m.type with
  | none => rfl
  | some m => simp only [Option.map_some, Aggregation.key_stripped, Aggregation.type_stripped]

end Grouping

end SearchCompiler
