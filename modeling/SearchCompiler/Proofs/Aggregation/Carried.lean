import SearchCompiler.Proofs.Aggregation.Forest
import SearchCompiler.Proofs.Aggregation.Rows

/-! What the entry of a node carries of the fragment that its method compiles: all of it, but for an
`aggs` that children write over. Only a raw fragment can have one. -/

namespace SearchCompiler.Aggregation

structure Carries (x : Context) (catalog : Catalog) (a : Aggregation) (own entry : Json) :
    Prop where
  leaf : a.children = [] → entry = own
  others : ∀ name, name ≠ "aggs" → entry.get? name = own.get? name
  inner : a.children ≠ [] → ∃ children, x.result (compileList catalog a.children) = .ok children ∧
    entry.get? "aggs" = some (.object children)
  raw : a.type = "raw" → a.args = .raw own
  plain : a.type ≠ "raw" → own.get? "aggs" = none
  whole_iff : (∀ name value, own.get? name = some value → entry.get? name = some value) ↔
    own.get? "aggs" = none ∨ own.get? "aggs" = entry.get? "aggs"

variable {x : Context} {catalog : Catalog} {other : Aggregation → Compile Json} {a : Aggregation}

lemma args_of_raw {own : Json} (h : x.result (Method.raw other a) = .ok own) :
    a.args = .raw own := by
  simp only [Method.raw, Method.direct] at h
  split at h
  · rename_i fragment hargs
    obtain rfl := Except.ok.inj h
    exact hargs
  · cases h

lemma whole_iff_of_others {own entry : Json}
    (h : ∀ name, name ≠ "aggs" → entry.get? name = own.get? name) :
    (∀ name value, own.get? name = some value → entry.get? name = some value) ↔
      own.get? "aggs" = none ∨ own.get? "aggs" = entry.get? "aggs" := by
  constructor
  · intro hall
    cases haggs : own.get? "aggs" with
    | none => exact .inl rfl
    | some value => exact .inr (hall "aggs" value haggs).symm
  · intro haggs name value hvalue
    by_cases hname : name = "aggs"
    · subst hname
      rcases haggs with hnone | heq
      · rw [hnone] at hvalue
        cases hvalue
      · rw [← heq, hvalue]
    · rw [h name hname, hvalue]

theorem carries_of_compile {method : Method} {entry : Json}
    (hstandard : Catalog.standard.method? a.type = some method)
    (hm : catalog.method? a.type = some method)
    (h : x.result (a.compile catalog) = .ok entry) :
    ∃ own, x.result (method (compileDelegated catalog catalog.size) a) = .ok own ∧
      Carries x catalog a own entry := by
  obtain ⟨own, hown, hentry⟩ := (compileWith_eq_ok hm).mp h
  have hothers : ∀ name, name ≠ "aggs" → entry.get? name = own.get? name := by
    intro name hname
    rcases hentry with ⟨-, rfl⟩ | ⟨-, -, children, -, members, rfl, rfl⟩
    · rfl
    · exact Entries.get?_insert_of_ne _ _ hname
  refine ⟨own, hown, ?_, hothers, ?_, ?_, ?_, whole_iff_of_others hothers⟩
  · intro hnil
    rcases hentry with ⟨-, rfl⟩ | ⟨hne, -⟩
    · rfl
    · exact absurd hnil hne
  · intro hne
    rcases hentry with ⟨hnil, -⟩ | ⟨-, -, children, hchildren, members, rfl, rfl⟩
    · exact absurd hnil hne
    · exact ⟨children, hchildren, Entries.get?_insert_self _ _ _⟩
  · intro hraw
    rw [hraw] at hstandard
    obtain rfl : Method.raw = method := Option.some.inj hstandard
    exact args_of_raw hown
  · intro hraw
    exact Catalog.standard_leavesAggs hstandard hraw _ a rfl x own hown

open Rows (shop)

def brandsBody : Json := .object [
  ("aggs", .single "cheapest" (.single "min" (.single "field" (.string "price")))),
  ("terms", .single "field" (.string "brand"))]

def brands : Aggregation where
  key := "brands"
  type := "raw"
  args := .raw brandsBody
  children := [.ofField "dearest" "max" "price"]

def brandsEntry : Json := .object [
  ("aggs", .single "dearest" (.single "max" (.single "field" (.string "price")))),
  ("terms", .single "field" (.string "brand"))]

lemma result_brands : shop.result (brands.compile .standard) = .ok brandsEntry := rfl

theorem carries_of_compile_brands :
    Catalog.standard.method? brands.type = some Method.raw ∧
      shop.result (brands.compile .standard) = .ok brandsEntry ∧
      ∃ own, shop.result (Method.raw (compileDelegated .standard Catalog.standard.size) brands) =
        .ok own ∧ Carries shop .standard brands own brandsEntry := by
  have hmethod : Catalog.standard.method? brands.type = some Method.raw := rfl
  exact ⟨hmethod, result_brands, carries_of_compile hmethod hmethod result_brands⟩

/-- The cheapest price is gone. -/
theorem brands_lose_cheapest :
    shop.result (brands.compile .standard) = .ok brandsEntry ∧ brands.args = .raw brandsBody ∧
      (brandsBody.get? "aggs").bind (·.get? "cheapest") ≠ none ∧
      (brandsEntry.get? "aggs").bind (·.get? "cheapest") = none := by
  refine ⟨result_brands, rfl, ?_, rfl⟩
  intro h
  cases h

end SearchCompiler.Aggregation
