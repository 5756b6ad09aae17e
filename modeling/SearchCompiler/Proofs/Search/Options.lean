import SearchCompiler.Proofs.Aggregation.Options
import SearchCompiler.Target

/-! A search is answered as it is without the options that no fragment takes, wherever in it they
stand. -/

namespace SearchCompiler

open Fragment

namespace HighlightedField

def stripped (f : HighlightedField) : HighlightedField :=
  { f with options := f.options.map (keep Allowed.highlight) }

end HighlightedField

namespace Highlight

def stripped (h : Highlight) : Highlight :=
  { h with
    fields := h.fields.map HighlightedField.stripped
    options := keep Allowed.highlight h.options }

lemma fieldTable_stripped (fields : List HighlightedField) :
    fieldTable (fields.map HighlightedField.stripped) = fieldTable fields := by
  have hfield (f : HighlightedField) :
      keep Allowed.highlight (f.stripped.options.getD []) =
        keep Allowed.highlight (f.options.getD []) := by
    rw [HighlightedField.stripped]
    cases f.options with
    | none => rfl
    | some options => exact keep_keep Allowed.highlight options
  simp only [fieldTable, List.isEmpty_map, List.map_map]
  congr 3
  funext f
  rw [Function.comp_apply, hfield]
  rfl

lemma compile_stripped (h : Highlight) (settings : Settings) :
    h.stripped.compile settings = h.compile settings := by
  simp only [compile, stripped, fieldTable_stripped, keep_keep]

end Highlight

namespace Search

def stripped (s : Search) : Search :=
  { s with
    scored := Clause.listStripped s.scored
    filters := Clause.listStripped s.filters
    postFilters := Clause.listStripped s.postFilters
    sortKeys := s.sortKeys.map SortKey.stripped
    sortPatches := s.sortPatches.map SortPatch.stripped
    highlight := s.highlight.map Highlight.stripped
    aggregations := Aggregation.listStripped s.aggregations
    grouping := s.grouping.map Grouping.stripped }

lemma querySection_stripped (scored filters : List Clause) :
    querySection (Clause.listStripped scored) (Clause.listStripped filters) =
      querySection scored filters := by
  simp only [querySection, Clause.compileList_stripped, Clause.isEmpty_listStripped]

lemma postFilterSection_stripped (clauses : List Clause) :
    postFilterSection (Clause.listStripped clauses) = postFilterSection clauses := by
  simp only [postFilterSection, Clause.compileList_stripped, Clause.isEmpty_listStripped]

lemma aggregationSection_stripped (as : List Aggregation) (grouping : Option Grouping) :
    aggregationSection .standard (Aggregation.listStripped as) (grouping.map Grouping.stripped) =
      aggregationSection .standard as grouping := by
  simp only [aggregationSection, Aggregation.compileList_stripped]
  cases grouping with
  | none => rfl
  | some g => simp only [Option.map_some, Grouping.compile_stripped]

lemma page_stripped (s : Search) : s.stripped.page = s.page := by
  rw [page, page, stripped, Option.isSome_map]

lemma compile_stripped (s : Search) : s.stripped.compile .standard = s.compile .standard := by
  have hhighlight (settings : Settings) :
      (s.highlight.map Highlight.stripped).map (fun h => h.compile settings) =
        s.highlight.map fun h => h.compile settings := by
    rw [Option.map_map]
    congr 1
    funext h
    exact h.compile_stripped settings
  rw [compile, compile, page_stripped]
  simp only [stripped, querySection_stripped, postFilterSection_stripped,
    aggregationSection_stripped, sortSection_stripped, hhighlight]

end Search

namespace Target

theorem ask_stripped (index : String) (settings : Settings) (provider : Provider) (m : Memory)
    (s : Search) :
    let t : Target := { index, settings }
    t.ask provider m (.request s.stripped) = t.ask provider m (.request s) ∧
      ∀ s' : Search, s'.stripped = s.stripped →
        t.ask provider m (.request s') = t.ask provider m (.request s) := by
  intro t
  have hstripped (s : Search) :
      t.ask provider m (.request s.stripped) = t.ask provider m (.request s) := by
    have hcompile : (Question.request s.stripped).compile t.catalog =
        (Question.request s).compile t.catalog := by
      simp only [Question.compile]
      rw [show t.catalog = .standard from rfl, s.compile_stripped]
    rw [ask, ask, hcompile]
  refine ⟨hstripped s, ?_⟩
  intro s' hs
  rw [← hstripped s', hs, hstripped s]

def rated (options : Options) : Search where
  scored := [
    { form := .nested (.inner [{ column := "likes", options }] none none) "comments"
        [{ form := .condition (.compare "author" .notEq .null), options }]
      options }]
  filters := [{ form := .condition (.script "doc['a'].value > params.x"), options }]
  sortKeys := [{ column := "age", options }]
  sortPatches := [⟨"age", options⟩]
  highlight := some { fields := [⟨"bio", some options⟩], options }
  aggregations := [
    { key := "ages", type := "histogram", args := .field "age", options
      children := [{ key := "rate", type := "avg", options }] }]
  grouping := some { fields := ["author"], keys := [{ column := "_count", options }] }

def rates : Options := [("boost", .int 2), ("interval", .int 5), ("script", .string "1")]

def trustingTarget : Target := { index := "people", settings := { trusting := true } }

theorem ask_stripped_rated :
    let deep := rated (("depth", .int 3) :: rates)
    let provider : Provider := .ofTable "gone" .empty
    deep.stripped = (rated rates).stripped ∧
      (trustingTarget.ask provider {} (.request (rated rates))).1.isOk = true ∧
      trustingTarget.ask provider {} (.request deep) =
        trustingTarget.ask provider {} (.request (rated rates)) :=
  ⟨rfl, rfl, (ask_stripped "people" { trusting := true } _ {} (rated rates)).2 _ rfl⟩

end Target

end SearchCompiler
