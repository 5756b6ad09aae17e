import SearchCompiler.Aggregation.Levels
import SearchCompiler.Proofs.Aggregation.Catalog
import SearchCompiler.Proofs.Clause.Parallel
import SearchCompiler.Proofs.Dict

/-! Whether aggregations are well formed depends on the kinds of their fragments and the keys of
siblings, which no mapping decides. -/

namespace SearchCompiler

open Compile (Parallel)

def Json.SameKind (fragment fragment' : Json) : Prop :=
  fragment.isObject = fragment'.isObject

lemma Json.eq_object {v : Json} (h : v.isObject = true) : ∃ ms, v = .object ms := by
  cases v with
  | object ms => exact ⟨ms, rfl⟩
  | _ => cases h

def Options.SameKeys (ms ms' : Options) : Prop :=
  ms.map Prod.fst = ms'.map Prod.fst

namespace Method

def Steady (method : Method) : Prop :=
  ∀ other : Aggregation → Compile Json, (∀ a, Parallel Json.SameKind (other a) (other a)) →
    ∀ a, Parallel Json.SameKind (method other a) (method other a)

lemma lacking_parallel {α : Type} {R : α → α → Prop} (a : Aggregation)
    (requirement : Requirement) : Parallel R (lacking a requirement) (lacking a requirement) :=
  .fail rfl

lemma lookUpField_parallel {α : Type} {R : α → α → Prop} (a : Aggregation)
    {f g : String → Compile α} (hf : ∀ b c, Parallel R (f b) (g c)) :
    Parallel R (lookUpField a >>= f) (lookUpField a >>= g) := by
  rw [lookUpField]
  cases a.args with
  | field name => exact .lookUp name hf
  | _ => exact Parallel.bind (lacking_parallel (R := fun _ _ => True) a _) fun b c _ => hf b c

lemma metric_steady : metric.Steady := by
  intro other _ a
  simp only [metric, direct]
  cases a.args with
  | field f =>
    apply Parallel.lookUp
    intro field field'
    exact .pure rfl
  | none =>
    by_cases hs : Entries.hasKey "script" a.options
    · simp only [hs]
      exact .pure rfl
    · simp only [hs]
      exact lacking_parallel a _
  | _ => exact lacking_parallel a _

lemma count_steady : count.Steady := by
  intro other _ a
  apply lookUpField_parallel
  intro field field'
  exact .pure rfl

lemma topHits_steady : topHits.Steady := by
  intro other _ a
  exact .pure rfl

lemma terms_steady : terms.Steady := by
  intro other _ a
  apply lookUpField_parallel
  intro field field'
  apply Parallel.read
  intro s s'
  exact .pure rfl

lemma isByCaller_of_millisBounds {bounds : Option (Json × Json)} {e : Failure}
    (h : millisBounds bounds = .error e) : e.isByCaller = true := by
  cases bounds with
  | none => cases h
  | some b =>
    simp only [millisBounds] at h
    cases hl : b.1.toMillis with
    | error e' =>
      rw [hl] at h
      exact Except.error.inj h ▸ Json.isByCaller_of_toMillis hl
    | ok low =>
      rw [hl] at h
      cases hh : b.2.toMillis with
      | error e' =>
        rw [hh] at h
        exact Except.error.inj h ▸ Json.isByCaller_of_toMillis hh
      | ok high =>
        rw [hh] at h
        cases h

lemma dateHistogram_steady : dateHistogram.Steady := by
  intro other _ a
  simp only [dateHistogram, direct]
  cases a.args with
  | dateHistogram h =>
    apply Parallel.ofRead _ fun _ => isByCaller_of_millisBounds
    intro bounds
    apply Parallel.lookUp
    intro field field'
    exact .pure rfl
  | _ => exact lacking_parallel a _

lemma histogram_steady : histogram.Steady := by
  intro other _ a
  simp only [histogram, direct]
  by_cases hi : Entries.hasKey "interval" a.options
  · simp only [hi]
    apply lookUpField_parallel
    intro field field'
    exact .pure rfl
  · simp only [hi]
    exact lacking_parallel a _

lemma filter_steady : filter.Steady := by
  intro other _ a
  simp only [filter, direct]
  cases a.args with
  | filter clauses =>
    apply Parallel.bind (Clause.compileList_steady clauses)
    intro query query' _
    exact .pure rfl
  | _ => exact lacking_parallel a _

lemma nested_steady : nested.Steady := by
  intro other _ a
  simp only [nested, direct]
  cases a.args with
  | path p => exact .pure rfl
  | _ => exact lacking_parallel a _

lemma reverseNested_steady : reverseNested.Steady := by
  intro other _ a
  simp only [reverseNested, direct]
  cases a.args with
  | path | none => exact .pure rfl
  | _ => exact lacking_parallel a _

lemma composite_steady : composite.Steady := by
  intro other _ a
  simp only [composite, direct]
  cases a.args with
  | fields fs =>
    cases fs with
    | nil => exact lacking_parallel a _
    | cons f fs =>
      have hsource (f : String) : Parallel (fun _ _ => True)
          (do return (f, ← Compile.lookUp f)) (do return (f, ← Compile.lookUp f)) := by
        apply Parallel.lookUp
        intro field field'
        exact .pure trivial
      apply Parallel.bind (Parallel.mapM (f :: fs) hsource)
      intro sources sources' _
      exact .pure rfl
  | _ => exact lacking_parallel a _

lemma range_steady : range.Steady := by
  intro other _ a
  simp only [range, direct]
  cases a.args with
  | ranges f rs =>
    cases rs with
    | nil => exact lacking_parallel a _
    | cons r rs =>
      apply Parallel.lookUp
      intro field field'
      exact .pure rfl
  | _ => exact lacking_parallel a _

lemma missing_steady : missing.Steady := by
  intro other _ a
  apply lookUpField_parallel
  intro field field'
  exact .pure rfl

lemma raw_steady : raw.Steady := by
  intro other _ a
  simp only [raw, direct]
  cases a.args with
  | raw fragment => exact .pure rfl
  | _ => exact lacking_parallel a _

end Method

namespace Catalog

def Steady (catalog : Catalog) : Prop :=
  ∀ type method, catalog.method? type = some method → method.Steady

theorem standard_steady : standard.Steady := by
  intro type method h
  exact standard_cases (P := fun _ method => method.Steady) h (fun _ _ => Method.metric_steady)
    Method.count_steady Method.topHits_steady Method.terms_steady Method.dateHistogram_steady
    Method.histogram_steady Method.filter_steady Method.nested_steady Method.reverseNested_steady
    Method.composite_steady Method.range_steady Method.range_steady Method.missing_steady
    Method.raw_steady

end Catalog

namespace Aggregation

lemma attach_eq_fail {fragment : Json} (hf : fragment.isObject = false) (key : String)
    (children : Options) :
    attach key children fragment = Compile.fail (.descriptor (.fragmentNotObject key)) := by
  cases fragment <;> first | rfl | cases hf

lemma attach_parallel {children children' : Options} {fragment fragment' : Json} (key : String)
    (hf : fragment.SameKind fragment') :
    Parallel Json.SameKind (attach key children fragment) (attach key children' fragment') := by
  cases ho : fragment'.isObject with
  | true =>
    obtain ⟨ms, rfl⟩ := Json.eq_object (hf.trans ho)
    obtain ⟨ms', rfl⟩ := Json.eq_object ho
    exact .pure rfl
  | false =>
    rw [attach_eq_fail (hf.trans ho), attach_eq_fail ho]
    exact .fail rfl

variable {catalog : Catalog} {other : Aggregation → Compile Json}

mutual

lemma compileWith_parallel (hc : catalog.Steady)
    (ho : ∀ a, Parallel Json.SameKind (other a) (other a)) : (a : Aggregation) →
    Parallel Json.SameKind (compileWith catalog other a) (compileWith catalog other a)
  | ⟨key, type, args, options, children⟩ => by
    rw [compileWith]
    cases hm : catalog.method? type with
    | none => exact .fail rfl
    | some method =>
      dsimp only
      split
      · exact .fail rfl
      · apply Parallel.bind (hc type method hm other ho ⟨key, type, args, options, children⟩)
        intro fragment fragment' hf
        split
        · exact .pure hf
        · have hs : Options.SameKeys [] [] := rfl
          apply Parallel.bind (siblingsWith_parallel hc ho hs children)
          intro members members' _
          exact attach_parallel key hf

lemma siblingsWith_parallel (hc : catalog.Steady)
    (ho : ∀ a, Parallel Json.SameKind (other a) (other a)) {compiled compiled' : Options}
    (hs : compiled.SameKeys compiled') : (as : List Aggregation) →
    Parallel Options.SameKeys (siblingsWith catalog other compiled as)
      (siblingsWith catalog other compiled' as)
  | [] => .pure hs
  | a :: as => by
    rw [siblingsWith, siblingsWith, Entries.hasKey_congr hs]
    split
    · exact .fail rfl
    · apply Parallel.bind (compileWith_parallel hc ho a)
      intro fragment fragment' _
      exact siblingsWith_parallel hc ho (Entries.keys_insert_congr hs a.key _ _) as

end

lemma compileDelegated_parallel (hc : catalog.Steady) (depth : Nat) (a : Aggregation) :
    Parallel Json.SameKind (compileDelegated catalog depth a)
      (compileDelegated catalog depth a) := by
  induction depth generalizing a with
  | zero => exact .fail rfl
  | succ depth ih => exact compileWith_parallel hc ih a

lemma compileList_parallel (hc : catalog.Steady) (as : List Aggregation) :
    Parallel Options.SameKeys (compileList catalog as) (compileList catalog as) :=
  siblingsWith_parallel hc (compileDelegated_parallel hc _) rfl as

end Aggregation

namespace Grouping

lemma levels_parallel (size size' : UInt64) (keys : List SortKey) {innermost innermost' : Options}
    (hi : innermost.SameKeys innermost') (fields : List String) :
    Parallel Options.SameKeys (levels size keys innermost fields)
      (levels size' keys innermost' fields) := by
  induction fields with
  | nil => exact .pure hi
  | cons field fields ih =>
    apply ih.bind
    intro inner inner' hinner
    apply Parallel.lookUp
    intro column column'
    split <;> split <;> exact .pure rfl

lemma compile_parallel {catalog : Catalog} (hc : catalog.Steady) (g : Grouping) :
    Parallel Options.SameKeys (g.compile catalog) (g.compile catalog) := by
  rw [compile]
  split
  · exact .fail rfl
  · split
    · exact .fail rfl
    · apply Parallel.read
      intro s s'
      apply Parallel.bind (Aggregation.compileList_parallel hc g.metrics)
      intro metrics metrics' hm
      exact levels_parallel _ _ g.keys hm g.fields

end Grouping

end SearchCompiler
