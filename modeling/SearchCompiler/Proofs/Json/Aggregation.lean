import SearchCompiler.Aggregation.Grouping
import SearchCompiler.Proofs.Json.Clause

/-! Aggregations and groupings are read back as they were written. -/

namespace SearchCompiler

open Json (Restores)

lemma IntervalStyle.restores : Restores ofJson toJson := by
  intro s
  cases s <;> rfl

lemma DateHistogram.restores : Restores ofJson toJson := by
  intro h
  have hstyle := IntervalStyle.restores.option (fun _ hnull => by cases hnull) h.style
  have hbounds := Json.restores_pair.option (fun _ hnull => by cases hnull) h.bounds
  refine Json.toRecord_record (by simp) fun r hr => ?_
  rw [hr.required rfl (Json.restores_text h.field), hr.required rfl (Json.restores_text h.interval),
    hr.optional rfl hstyle, hr.optional rfl hbounds]
  rfl

namespace Arguments

lemma rangesOf_record (field : String) (rs : List Json) :
    rangesOf (.record [("field", .string field), ("ranges", .array rs)]) =
      .ok (.ranges field rs) := by
  refine Json.read_record (by simp) fun members hr => ?_
  rw [rangesOf, hr.required rfl (Json.restores_text field),
    hr.required rfl (Json.restores_array rs)]
  rfl

lemma restores : Restores ofJson toJson := by
  intro args
  cases args with
  | none => rfl
  | field f => rfl
  | fields fs =>
    change (Json.toList Json.toText (.ofStrings fs)).map Arguments.fields = _
    rw [Json.restores_strings]
    rfl
  | path p => rfl
  | filter clauses =>
    change (Clause.listOfJson (.array (Clause.listToJson clauses))).map Arguments.filter = _
    rw [Clause.restores_list]
    rfl
  | ranges f rs => exact rangesOf_record f rs
  | dateHistogram h =>
    change (DateHistogram.ofJson h.toJson).map Arguments.dateHistogram = _
    rw [DateHistogram.restores]
    rfl
  | raw fragment => rfl

end Arguments

namespace Aggregation

lemma childrenNamed_eq (ms : Options) :
    childrenNamed ms = ((Entries.get? "sub_aggregations" ms).map childrenOf).getD (.ok []) := by
  induction ms with
  | nil => rfl
  | cons m ms ih =>
    obtain ⟨key, v⟩ := m
    rw [childrenNamed, Entries.get?, ih]
    by_cases hkey : key = "sub_aggregations"
    · rw [if_pos hkey, if_pos hkey.symm]
      rfl
    · rw [if_neg hkey, if_neg (Ne.symm hkey)]

mutual

lemma ofJson_toJson : (a : Aggregation) → ofJson a.toJson = .ok a
  | ⟨key, type, args, options, children⟩ => by
    have hlist := listOf_listToJson children
    refine Json.read_ofMembers (by simp) fun members hr => ?_
    have hchildren : childrenNamed members = .ok children := by
      rw [childrenNamed_eq, hr "sub_aggregations"]
      cases children with
      | nil => rfl
      | cons child children => exact hlist
    rw [ofJson, ofRecord, hr.required rfl (Json.restores_text key),
      hr.required rfl (Json.restores_text type), hr.withDefault rfl (Arguments.restores args),
      hr.options rfl, hchildren]
    rfl

lemma listOf_listToJson : (as : List Aggregation) → listOf (listToJson as) = .ok as
  | [] => rfl
  | a :: as => by
    rw [listToJson, listOf, ofJson_toJson, listOf_listToJson as]
    rfl

end

lemma listToJson_eq_map (as : List Aggregation) : listToJson as = as.map toJson := by
  induction as with
  | nil => rfl
  | cons a as ih => rw [listToJson, ih, List.map_cons]

lemma restores_list : Restores (Json.toList ofJson) fun as => .array (listToJson as) := by
  intro as
  simp only [listToJson_eq_map]
  exact Json.Restores.list ofJson_toJson as

end Aggregation

lemma Grouping.restores : Restores ofJson toJson := by
  intro g
  refine Json.toRecord_record (by simp) fun r hr => ?_
  rw [hr.required rfl (Json.restores_strings g.fields),
    hr.withDefault rfl (Aggregation.restores_list g.metrics),
    hr.withDefault rfl ((SortKey.restores .standalone).list g.keys),
    hr.optional rfl (Json.restores_countOption g.size)]
  rfl

end SearchCompiler
