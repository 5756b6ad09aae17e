import Mathlib.Tactic.Common
import SearchCompiler.Fragment.Basic

/-! Options that a fragment does not take make no difference to it. -/

namespace SearchCompiler.Fragment

lemma keep_of_subset {allowed kept : List String} (h : allowed ⊆ kept) (options : Options) :
    keep allowed (keep kept options) = keep allowed options := by
  rw [keep, keep, keep, List.filter_filter]
  apply List.filter_congr
  intro o _
  rw [Bool.and_eq_left_iff_imp]
  intro ho
  exact List.contains_iff_mem.mpr (h (List.contains_iff_mem.mp ho))

lemma keep_keep (allowed : List String) (options : Options) :
    keep allowed (keep allowed options) = keep allowed options :=
  keep_of_subset (fun _ h => h) options

lemma hasKey_keep {allowed : List String} {key : String} (h : key ∈ allowed) (options : Options) :
    Entries.hasKey key (keep allowed options) = Entries.hasKey key options := by
  induction options with
  | nil => rfl
  | cons o options ih =>
    rw [keep, List.filter_cons]
    rw [Entries.hasKey] at ih
    split
    · rw [Entries.hasKey, Entries.hasKey, Entries.get?, Entries.get?]
      split
      · rfl
      · exact ih
    · rename_i ho
      have hne : key ≠ o.1 := by
        rintro rfl
        exact ho (List.contains_iff_mem.mpr h)
      rw [Entries.hasKey, Entries.hasKey, Entries.get?, if_neg hne]
      exact ih

end SearchCompiler.Fragment
