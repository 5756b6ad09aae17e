import Mathlib.Tactic.Common
import SearchCompiler.Aggregation.Catalog

/-! What holds of every standard aggregation type: what holds of the methods that are listed. -/

namespace SearchCompiler.Catalog

variable {type : String} {method : Method}

lemma contains_eq_isSome_method? (catalog : Catalog) (type : String) :
    catalog.contains type = (catalog.method? type).isSome := by
  rw [contains, Dict.contains, method?, Option.isSome_map]

lemma method?_insert (catalog : Catalog) (e : String × Method) (metric : Bool) (type : String) :
    Catalog.method? ⟨catalog.entries.insert e.1 ⟨e.2, metric⟩⟩ type =
      if type = e.1 then some e.2 else catalog.method? type := by
  rw [method?, method?]
  split
  · rename_i ht
    rw [ht, Dict.get?_insert_self]
    rfl
  · rename_i ht
    rw [Dict.get?_insert_of_ne _ _ ht]

lemma mem_of_method?_foldl {catalog : Catalog} (metric : Bool) {es : List (String × Method)}
    (h : Catalog.method? (es.foldl (fun c e => ⟨c.entries.insert e.1 ⟨e.2, metric⟩⟩) catalog) type =
      some method) : (type, method) ∈ es ∨ catalog.method? type = some method := by
  induction es generalizing catalog with
  | nil => exact .inr h
  | cons e es ih =>
    rcases ih h with hmem | hm
    · exact .inl (List.mem_cons_of_mem _ hmem)
    · rw [method?_insert] at hm
      split at hm
      · rename_i ht
        obtain rfl := Option.some.inj hm
        exact .inl (List.mem_cons.mpr (.inl (by rw [ht])))
      · exact .inr hm

lemma standard_cases {P : String → Method → Prop} (h : standard.method? type = some method)
    (hmetric : ∀ type ∈ plainMetrics, P type Method.metric) (hcount : P "count" Method.count)
    (htopHits : P "top_hits" Method.topHits) (hterms : P "terms" Method.terms)
    (hdateHistogram : P "date_histogram" Method.dateHistogram)
    (hhistogram : P "histogram" Method.histogram) (hfilter : P "filter" Method.filter)
    (hnested : P "nested" Method.nested) (hreverse : P "reverse_nested" Method.reverseNested)
    (hcomposite : P "composite" Method.composite) (hrange : P "range" Method.range)
    (hdateRange : P "date_range" Method.range) (hmissing : P "missing" Method.missing)
    (hraw : P "raw" Method.raw) : P type method := by
  have hmetrics : ∀ e ∈ standardMetrics, P e.1 e.2 := by
    intro e he
    rcases List.mem_append.mp he with he | he
    · obtain ⟨type, ht, rfl⟩ := List.mem_map.mp he
      exact hmetric type ht
    · simp only [List.mem_cons, List.not_mem_nil, or_false] at he
      rcases he with rfl | rfl
      · exact hcount
      · exact htopHits
  have hbuckets : ∀ e ∈ standardBuckets, P e.1 e.2 := by
    simp only [standardBuckets, List.forall_mem_cons]
    exact ⟨hterms, hdateHistogram, hhistogram, hfilter, hnested, hreverse, hcomposite, hrange,
      hdateRange, hmissing, hraw, by simp⟩
  rcases mem_of_method?_foldl false h with hmem | h
  · exact hbuckets _ hmem
  · rcases mem_of_method?_foldl true h with hmem | h
    · exact hmetrics _ hmem
    · cases h

end SearchCompiler.Catalog
