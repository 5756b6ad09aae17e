import SearchCompiler.Proofs.Aggregation.Naming

/-! The rows of any response, well formed or not. Each comes from a chain of buckets that leads
through all the levels, and they stand in the order in which a walk meets the ends of the chains. -/

namespace SearchCompiler.Rows

inductive Leads : List String → Json → List Nat → List Json → Prop
  | nil {node} : Leads [] node [] []
  | cons {field fields node level buckets i b places chain} : node.get? field = some level →
      level.get? "buckets" = some (.array buckets) → buckets[i]? = some b →
      Leads fields b places chain → Leads (field :: fields) node (i :: places) (b :: chain)

inductive MeasuresAll (bucket : Json) : List String → Options → Prop
  | nil : MeasuresAll bucket [] []
  | skip {name names members} : bucket.get? name = none → MeasuresAll bucket names members →
      MeasuresAll bucket (name :: names) members
  | write {name names members result v} : bucket.get? name = some result → Measures result v →
      MeasuresAll bucket names members → MeasuresAll bucket (name :: names) ((name, v) :: members)

structure RowAlong (fields metrics : List String) (chain : List Json) (row : Options) : Prop where
  ascending : Entries.Ascending row
  members : ∃ innermost measures,
    chain.getLast? = some innermost ∧ MeasuresAll innermost metrics measures ∧
    ∀ name, Entries.get? name row = Entries.get? name
      (fields.zip (chain.map fun b => (b.get? "key").getD .null) ++
        (countMember, (innermost.get? "doc_count").getD (.int 0)) :: measures).reverse

def Follows (fields metrics : List String) (node : Json) (rows : List Options) : Prop :=
  ∃ walk : List (List Nat × List Json),
    walk.Pairwise (fun v w => v.1 < w.1) ∧
    (∀ places chain, (places, chain) ∈ walk ↔ Leads fields node places chain) ∧
    List.Forall₂ (fun w row => RowAlong fields metrics w.2 row) walk rows

def walk : List String → Json → List (List Nat × List Json)
  | [], _ => [([], [])]
  | field :: fields, node =>
    (buckets field node).zipIdx.flatMap fun b =>
      (walk fields b.1).map fun w => (b.2 :: w.1, b.1 :: w.2)

lemma getElem?_buckets {field : String} {node b : Json} {i : Nat} :
    (buckets field node)[i]? = some b ↔ ∃ level bs, node.get? field = some level ∧
      level.get? "buckets" = some (.array bs) ∧ bs[i]? = some b := by
  rw [buckets]
  cases node.get? field with
  | none => simp
  | some level =>
    cases hb : level.get? "buckets" with
    | none => simp [hb]
    | some v => cases v <;> simp [hb, Json.array?]

lemma map_snd_walk (fields : List String) (node : Json) :
    (walk fields node).map Prod.snd = chains fields node := by
  induction fields generalizing node with
  | nil => rfl
  | cons field fields ih =>
    have hbuckets : (buckets field node).zipIdx.map Prod.fst = buckets field node :=
      List.zipIdx_map_fst 0 _
    rw [walk, chains_cons, List.map_flatMap]
    conv_rhs => rw [← hbuckets, List.flatMap_map]
    refine List.flatMap_congr fun b _ => ?_
    rw [← ih, List.map_map, List.map_map]
    rfl

lemma mem_walk {fields : List String} {node : Json} {places : List Nat} {chain : List Json} :
    (places, chain) ∈ walk fields node ↔ Leads fields node places chain := by
  induction fields generalizing node places chain with
  | nil =>
    constructor
    · intro h
      obtain ⟨rfl, rfl⟩ := Prod.mk.inj (List.mem_singleton.mp h)
      exact .nil
    · rintro ⟨⟩
      exact List.mem_singleton_self _
  | cons field fields ih =>
    simp only [walk, List.mem_flatMap, List.mem_map, Prod.exists, ih,
      List.mk_mem_zipIdx_iff_getElem?, getElem?_buckets, Prod.mk.injEq]
    constructor
    · rintro ⟨b, i, ⟨level, bs, hlevel, hbs, hb⟩, places, chain, hrest, rfl, rfl⟩
      exact .cons hlevel hbs hb hrest
    · intro h
      cases h with
      | cons hlevel hbs hb hrest =>
        exact ⟨_, _, ⟨_, _, hlevel, hbs, hb⟩, _, _, hrest, rfl, rfl⟩

lemma pairwise_walk (fields : List String) (node : Json) :
    (walk fields node).Pairwise fun v w => v.1 < w.1 := by
  induction fields generalizing node with
  | nil => exact List.pairwise_singleton _ _
  | cons field fields ih =>
    have hplaces : ((buckets field node).zipIdx.map Prod.snd).Pairwise (· < ·) := by
      rw [List.zipIdx_map_snd]
      exact List.pairwise_lt_range'
    rw [walk, List.pairwise_flatMap]
    constructor
    -- below one bucket the first places are equal; for two buckets they decide
    · rintro ⟨b, i⟩ -
      rw [List.pairwise_map]
      exact (ih b).imp fun h => List.cons_lt_cons_self.mpr h
    · refine (List.pairwise_map.mp hplaces).imp fun hlt v hv w hw => ?_
      obtain ⟨v', -, rfl⟩ := List.mem_map.mp hv
      obtain ⟨w', -, rfl⟩ := List.mem_map.mp hw
      exact List.cons_lt_cons_iff.mpr (.inl hlt)

lemma measuresAll_measured (metrics : List String) (bucket : Json) :
    MeasuresAll bucket metrics (measured metrics bucket) := by
  induction metrics with
  | nil => exact .nil
  | cons name metrics ih =>
    rw [measured, List.filterMap_cons]
    cases hresult : bucket.get? name with
    | none => exact .skip hresult ih
    | some result => exact .write hresult (measures_measure result) ih

lemma rowAlong_insertAll {chain : List Json} {innermost : Json}
    (hlast : chain.getLast? = some innermost) (fields metrics : List String) :
    RowAlong fields metrics chain (Entries.insertAll (writes fields metrics chain) []) := by
  have hinnermost : chain.getLastD .null = innermost := by
    rw [List.getLastD_eq_getLast?, hlast, Option.getD_some]
  refine ⟨Entries.ascending_insertAll _ .nil, innermost, measured metrics innermost, hlast,
    measuresAll_measured metrics innermost, fun name => ?_⟩
  rw [Entries.get?_insertAll, Entries.get?, Option.or_none, writes, hinnermost]
  rfl

lemma follows_below {fields : List String} (hne : fields ≠ []) (metrics : List String)
    (node : Json) : Follows fields metrics node (below metrics fields [] node) := by
  refine ⟨walk fields node, pairwise_walk fields node, fun _ _ => mem_walk, ?_⟩
  rw [below_eq_map_chains hne, ← map_snd_walk, List.map_map, List.forall₂_map_right_iff,
    List.forall₂_same]
  intro w hw
  have hchain : w.2 ∈ chains fields node := map_snd_walk fields node ▸ List.mem_map_of_mem hw
  have hlength : w.2.length = fields.length := length_of_mem_chains hchain
  have hw2 : w.2 ≠ [] := by
    intro h
    rw [h] at hlength
    exact hne (List.length_eq_zero_iff.mp hlength.symm)
  exact rowAlong_insertAll (List.getLast?_eq_some_getLast hw2) fields metrics

structure Flattens (fields metrics : List String) (response : Json) (rows : List Options) :
    Prop where
  ungrouped : fields = [] → rows = []
  grouped : fields ≠ [] → ∀ aggregations, response.get? "aggregations" = some aggregations →
    Follows fields metrics aggregations rows
  bare : fields ≠ [] → response.get? "aggregations" = none → Follows fields metrics response rows

theorem flattens (fields metrics : List String) (response : Json) :
    Flattens fields metrics response (ofResponse fields metrics response) := by
  refine ⟨?_, fun hne aggregations h => ?_, fun hne h => ?_⟩
  · rintro rfl
    rfl
  · rw [ofResponse, outermost, h]
    exact follows_below hne metrics aggregations
  · rw [ofResponse, outermost, h]
    exact follows_below hne metrics response

end SearchCompiler.Rows
