import SearchCompiler.Proofs.Aggregation.Catalog
import SearchCompiler.Proofs.Lookup.Evaluation

/-! The own fragments of the standard types: they do not depend on the children and, unless given
raw, leave `aggs` to them. -/

namespace SearchCompiler

def Compile.Returns {α : Type} (P : α → Prop) (c : Compile α) : Prop :=
  ∀ (x : Context) a, x.result c = .ok a → P a

namespace Compile.Returns

variable {α β : Type} {P : β → Prop}

lemma pure {b : β} (h : P b) : Returns P (pure b) := by
  rintro x _ ⟨⟩
  exact h

lemma fail {e : Failure} : Returns P (Compile.fail e) := by
  rintro x _ ⟨⟩

lemma bind {c : Compile α} {f : α → Compile β} (h : ∀ a, Returns P (f a)) :
    Returns P (c >>= f) := by
  intro x b hb
  obtain ⟨a, -, hb⟩ := (x.result_bind_eq_ok c f b).mp hb
  exact h a x b hb

end Compile.Returns

lemma Json.get?_single_of_ne {name key : String} (h : name ≠ key) (value : Json) :
    (single key value).get? name = none := by
  simp [single, get?, members, Entries.get?, h]

namespace Method

open Fragment

def LeavesAggs (type : String) (method : Method) : Prop :=
  ∀ other a, a.type = type → (method other a).Returns fun own => own.get? "aggs" = none

lemma metric_leavesAggs {type : String} (ht : "aggs" ≠ type) : LeavesAggs type metric := by
  rintro other a rfl
  simp only [metric, direct]
  split
  · exact .bind fun field => .pure (Json.get?_single_of_ne ht _)
  · split
    · exact .pure (Json.get?_single_of_ne ht _)
    · exact .fail
  · exact .fail

lemma count_leavesAggs : LeavesAggs "count" count :=
  fun _ _ _ => .bind fun _ => .pure (Json.get?_single_of_ne (by decide) _)

lemma topHits_leavesAggs : LeavesAggs "top_hits" topHits :=
  fun _ _ _ => .pure (Json.get?_single_of_ne (by decide) _)

lemma terms_leavesAggs : LeavesAggs "terms" terms :=
  fun _ _ _ => .bind fun _ => .bind fun _ => .pure (Json.get?_single_of_ne (by decide) _)

lemma dateHistogram_leavesAggs : LeavesAggs "date_histogram" dateHistogram := by
  intro other a _
  simp only [dateHistogram, direct]
  split
  · exact .bind fun bounds => .bind fun field => .pure (Json.get?_single_of_ne (by decide) _)
  · exact .fail

lemma histogram_leavesAggs : LeavesAggs "histogram" histogram := by
  intro other a _
  simp only [histogram, direct]
  split
  · exact .fail
  · exact .bind fun field => .pure (Json.get?_single_of_ne (by decide) _)

lemma filter_leavesAggs : LeavesAggs "filter" filter := by
  intro other a _
  simp only [filter, direct]
  split
  · exact .bind fun query => .pure (Json.get?_single_of_ne (by decide) _)
  · exact .fail

lemma nested_leavesAggs : LeavesAggs "nested" nested := by
  intro other a _
  simp only [nested, direct]
  split
  · exact .pure (Json.get?_single_of_ne (by decide) _)
  · exact .fail

lemma reverseNested_leavesAggs : LeavesAggs "reverse_nested" reverseNested := by
  intro other a _
  simp only [reverseNested, direct]
  split
  · exact .pure (Json.get?_single_of_ne (by decide) _)
  · exact .pure (Json.get?_single_of_ne (by decide) _)
  · exact .fail

lemma composite_leavesAggs : LeavesAggs "composite" composite := by
  intro other a _
  simp only [composite, direct]
  split
  · exact .bind fun sources => .pure (Json.get?_single_of_ne (by decide) _)
  · exact .fail

lemma range_leavesAggs {type : String} (ht : "aggs" ≠ type) : LeavesAggs type range := by
  rintro other a rfl
  simp only [range, direct]
  split
  · exact .bind fun field => .pure (Json.get?_single_of_ne ht _)
  · exact .fail

lemma missing_leavesAggs : LeavesAggs "missing" missing :=
  fun _ _ _ => .bind fun _ => .pure (Json.get?_single_of_ne (by decide) _)

end Method

lemma Catalog.standard_leavesAggs {type : String} {method : Method}
    (h : standard.method? type = some method) (hraw : type ≠ "raw") :
    Method.LeavesAggs type method := by
  have hplain (type : String) (ht : type ∈ plainMetrics) : "aggs" ≠ type := by
    rintro rfl
    simp [plainMetrics] at ht
  exact standard_cases (P := fun type method => type ≠ "raw" → Method.LeavesAggs type method) h
    (fun type ht _ => Method.metric_leavesAggs (hplain type ht))
    (fun _ => Method.count_leavesAggs) (fun _ => Method.topHits_leavesAggs)
    (fun _ => Method.terms_leavesAggs) (fun _ => Method.dateHistogram_leavesAggs)
    (fun _ => Method.histogram_leavesAggs) (fun _ => Method.filter_leavesAggs)
    (fun _ => Method.nested_leavesAggs) (fun _ => Method.reverseNested_leavesAggs)
    (fun _ => Method.composite_leavesAggs) (fun _ => Method.range_leavesAggs (by decide))
    (fun _ => Method.range_leavesAggs (by decide)) (fun _ => Method.missing_leavesAggs)
    (fun hraw => absurd rfl hraw) hraw

namespace Aggregation

def alone (a : Aggregation) : Aggregation := { a with children := [] }

lemma method_alone {a : Aggregation} {method : Method}
    (h : Catalog.standard.method? a.type = some method) (other : Aggregation → Compile Json) :
    method other a.alone = method other a := by
  exact Catalog.standard_cases (P := fun _ method => method other a.alone = method other a) h
    (fun _ _ => rfl) rfl rfl rfl rfl rfl rfl rfl rfl rfl rfl rfl rfl rfl

end Aggregation

end SearchCompiler
