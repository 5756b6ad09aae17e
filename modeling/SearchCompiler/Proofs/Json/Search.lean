import SearchCompiler.Proofs.Json.Aggregation
import SearchCompiler.Search.Basic

/-! Searches are read back as they were written. -/

namespace SearchCompiler

open Json (Restores)

lemma HighlightedField.restores : Restores ofJson toJson := by
  intro f
  have hoptions := Json.restores_options.option (fun _ hnull => by cases hnull) f.options
  refine Json.toRecord_record (by simp) fun r hr => ?_
  rw [hr.required rfl (Json.restores_text f.name), hr.optional rfl hoptions]
  rfl

lemma Highlight.restores : Restores ofJson toJson := by
  intro h
  refine Json.toRecord_record (by simp) fun r hr => ?_
  rw [hr.withDefault rfl (HighlightedField.restores.list h.fields),
    hr.withDefault rfl (Json.restores_options h.options),
    hr.optional rfl (Json.restores_stringsOption h.preTags),
    hr.optional rfl (Json.restores_stringsOption h.postTags)]
  rfl

lemma Search.restores : Restores ofJson toJson := by
  intro s
  have hhighlight := Highlight.restores.option (fun _ hnull => by cases hnull) s.highlight
  have hgrouping := Grouping.restores.option (fun _ hnull => by cases hnull) s.grouping
  refine Json.toRecord_record (by simp) fun r hr => ?_
  rw [hr.withDefault rfl (Clause.restores_list s.scored),
    hr.withDefault rfl (Clause.restores_list s.filters),
    hr.withDefault rfl (Clause.restores_list s.postFilters),
    hr.withDefault rfl ((SortKey.restores .standalone).list s.sortKeys),
    hr.withDefault rfl (SortPatch.restores.list s.sortPatches), hr.optional rfl hhighlight,
    hr.withDefault rfl (Aggregation.restores_list s.aggregations), hr.optional rfl hgrouping,
    hr.optional rfl (Json.restores_countOption s.offset),
    hr.optional rfl (Json.restores_countOption s.limit),
    hr.optional rfl (Json.restores_stringsOption s.source),
    hr.withDefault rfl (Json.restores_text.dict s.overrides)]
  rfl

theorem Search.reads_back :
    (∀ s : Search, ofJson s.toJson = .ok s) ∧
      ∀ c : Clause, Clause.ofValue c.toJson = .ok c ∧
        c.toJson.get? "type" = some (.string c.form.name) :=
  ⟨restores, fun c => ⟨c.ofValue_toJson, c.get?_type_toJson⟩⟩

end SearchCompiler
