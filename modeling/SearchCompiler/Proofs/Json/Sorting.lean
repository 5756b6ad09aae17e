import SearchCompiler.Proofs.Json.Record
import SearchCompiler.Sorting.Key

/-! Sort keys and sort patches are read back as they were written. -/

namespace SearchCompiler

open Json (Restores)

lemma Coordinates.restores : Restores ofJson toJson := by
  intro p
  refine Json.toRecord_record (by simp) fun r hr => ?_
  rw [hr.required rfl (Json.restores_binary64 p.lat),
    hr.required rfl (Json.restores_binary64 p.lon)]
  rfl

lemma Direction.restores : Restores ofJson toJson := by
  intro d
  cases d <;> rfl

lemma SortSubject.restores (placement : Placement) : Restores (ofJson placement) toJson := by
  intro s
  cases s with
  | column => rfl
  | distance point =>
    refine Json.read_record (by simp) fun members hr => ?_
    rw [ofJson, hr "type", hr "point"]
    change (Coordinates.ofJson point.toJson).map distance = _
    rw [Coordinates.restores]
    rfl

lemma SortKey.restores (placement : Placement) : Restores (ofJson placement) toJson := by
  intro k
  refine Json.toRecord_ofMembers (by simp) fun r hr => ?_
  rw [hr.required rfl (Json.restores_text k.column),
    hr.withDefault rfl (Direction.restores k.direction),
    hr.withDefault rfl (SortSubject.restores placement k.subject), hr.options rfl]
  rfl

lemma SortPatch.restores : Restores ofJson toJson := by
  intro p
  refine Json.toRecord_record (by simp) fun r hr => ?_
  rw [hr.required rfl (Json.restores_text p.column),
    hr.required rfl (Json.restores_options p.settings)]
  rfl

end SearchCompiler
