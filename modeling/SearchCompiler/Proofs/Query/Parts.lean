import SearchCompiler.Proofs.Dict
import SearchCompiler.Proofs.Query.Meaning

/-! The parts of a JSON value, at any depth. The fragments of a list of literals are parts of the
query of the list. -/

namespace SearchCompiler

namespace Json

inductive PartOf (part : Json) : Json → Prop
  | refl : PartOf part part
  | item {v vs} : v ∈ vs → PartOf part v → PartOf part (.array vs)
  | member {key v ms} : (key, v) ∈ ms → PartOf part v → PartOf part (.object ms)

lemma PartOf.trans {a b c : Json} (hab : PartOf a b) (hbc : PartOf b c) : PartOf a c := by
  induction hbc with
  | refl => exact hab
  | item hv _ ih => exact .item hv ih
  | member hv _ ih => exact .member hv ih

instance : Trans PartOf PartOf PartOf := ⟨PartOf.trans⟩

lemma partOf_object {part : Json} {ms : Options} :
    PartOf part (.object ms) ↔ part = .object ms ∨ ∃ m ∈ ms, PartOf part m.2 := by
  constructor
  · intro h
    cases h with
    | refl => exact .inl rfl
    | member hm hp => exact .inr ⟨_, hm, hp⟩
  · rintro (rfl | ⟨m, hm, hp⟩)
    · exact .refl
    · exact .member hm hp

lemma partOf_of_get? {key : String} {part : Json} {ms : Options}
    (h : Entries.get? key ms = some part) : PartOf part (.object ms) :=
  .member (Entries.mem_of_get? h) .refl

lemma partOf_body {kind : String} {part : Json} {ms : Options} (h : PartOf part (.object ms)) :
    PartOf part (Fragment.body kind ms) :=
  .member (List.mem_singleton.mpr rfl) h

end Json

namespace Fragment

lemma mem_group {f : Json} {fs : List Json} (key : String) (hf : f ∈ fs) :
    (key, .array fs) ∈ group key fs := by
  have hne : fs ≠ [] := List.ne_nil_of_mem hf
  simp [group, hne]

lemma partOf_bool {f : Json} {must mustNot should filter : List Json}
    (hf : f ∈ must ∨ f ∈ mustNot ∨ f ∈ should ∨ f ∈ filter) :
    f.PartOf (bool must mustNot should filter) := by
  rw [bool_eq]
  apply Json.partOf_body
  have hpart (key : String) {fs : List Json} {ms : Options} (hf : f ∈ fs)
      (hm : (key, .array fs) ∈ group key fs → (key, .array fs) ∈ ms) : f.PartOf (.object ms) :=
    .member (hm (mem_group key hf)) (.item hf .refl)
  simp only [← List.append_assoc, List.append_nil]
  rcases hf with hf | hf | hf | hf
  · exact hpart "must" hf fun hm => by simp [hm]
  · exact hpart "must_not" hf fun hm => by simp [hm]
  · exact hpart "should" hf fun hm => by simp [hm]
  · exact hpart "filter" hf fun hm => by simp [hm]

end Fragment

namespace Literal

variable {l : Literal}

lemma partOf_ofRun {run : List Literal} (hl : l ∈ run) :
    l.fragment.PartOf (ofRun run).toJson := by
  simp only [ofRun]
  split
  · obtain rfl := List.mem_singleton.mp hl
    exact .refl
  · apply Fragment.partOf_bool
    cases hn : l.negated with
    | true => exact .inr (.inl (List.mem_map.mpr ⟨l, by simp [hl, hn], rfl⟩))
    | false => exact .inl (List.mem_map.mpr ⟨l, by simp [hl, hn], rfl⟩)

lemma partOf_ofLiterals {ls : List Literal} (hl : l ∈ ls) :
    l.fragment.PartOf (Query.ofLiterals ls).toJson := by
  have hflat : (runs ls).flatten = ls := Combinator.flatten_runs ls
  obtain ⟨run, hrun, hl⟩ := List.mem_flatten.mp (hflat ▸ hl)
  have hpart : l.fragment.PartOf (ofRun run).toJson := partOf_ofRun hl
  rw [Query.ofLiterals_eq_ofRuns]
  simp only [Query.ofRuns]
  split
  · rename_i hruns
    rw [hruns] at hrun
    cases hrun
  · rename_i run' hruns
    rw [hruns] at hrun
    obtain rfl := List.mem_singleton.mp hrun
    exact hpart
  · refine hpart.trans (Fragment.partOf_bool (.inr (.inr (.inl ?_))))
    exact List.mem_map.mpr ⟨run, hrun, rfl⟩

end Literal

end SearchCompiler
