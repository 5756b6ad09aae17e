import SearchCompiler.Proofs.Aggregation.Levels
import SearchCompiler.Proofs.Aggregation.Own

/-! A forest of aggregations compiles if and only if each of its nodes does alone and siblings have
keys of their own; its fragments then stand where its nodes do. -/

namespace SearchCompiler

namespace Aggregation

inductive Siblings (as : List Aggregation) : List Aggregation → Prop
  | top : Siblings as as
  | inside {bs b} : Siblings as bs → b ∈ bs → Siblings as b.children

lemma Siblings.of_mem {as bs : List Aggregation} {a : Aggregation} (ha : a ∈ as)
    (h : Siblings a.children bs) : Siblings as bs := by
  induction h with
  | top => exact .inside .top ha
  | inside _ hb ih => exact ih.inside hb

section

variable {x : Context} {catalog : Catalog} {other : Aggregation → Compile Json}

lemma siblingsWith_cons_eq_ok {a : Aggregation} {as : List Aggregation}
    {compiled members : Options} :
    x.result (siblingsWith catalog other compiled (a :: as)) = .ok members ↔
      a.key ∉ compiled.map Prod.fst ∧
        ∃ fragment, x.result (compileWith catalog other a) = .ok fragment ∧
          x.result (siblingsWith catalog other (Entries.insert a.key fragment compiled) as) =
            .ok members := by
  rw [siblingsWith, ← Entries.hasKey_iff]
  split
  · rename_i hkey
    simp [hkey]
  · rename_i hkey
    simp only [hkey, Bool.false_eq_true, not_false_eq_true, true_and]
    exact x.result_bind_eq_ok _ _ _

lemma mem_keys_insert {key name : String} {compiled : Options} (fragment : Json)
    (hkey : key ∉ compiled.map Prod.fst) :
    name ∈ (Entries.insert key fragment compiled).map Prod.fst ↔
      name = key ∨ name ∈ compiled.map Prod.fst := by
  rw [((Entries.perm_insert fragment hkey).map Prod.fst).mem_iff, List.map_cons, List.mem_cons]

lemma exists_siblingsWith_eq_ok {as : List Aggregation} {compiled : Options} :
    (∃ members, x.result (siblingsWith catalog other compiled as) = .ok members) ↔
      (as.map key).Nodup ∧ (∀ a ∈ as, a.key ∉ compiled.map Prod.fst) ∧
        ∀ a ∈ as, ∃ fragment, x.result (compileWith catalog other a) = .ok fragment := by
  induction as generalizing compiled with
  | nil => simp [siblingsWith]
  | cons a as ih =>
    rw [List.map_cons, List.nodup_cons, List.forall_mem_cons, List.forall_mem_cons]
    constructor
    · rintro ⟨members, h⟩
      obtain ⟨hkey, fragment, hf, h⟩ := siblingsWith_cons_eq_ok.mp h
      obtain ⟨hnodup, hfree, hall⟩ := ih.mp ⟨members, h⟩
      have hfree' (b : Aggregation) (hb : b ∈ as) :
          b.key ≠ a.key ∧ b.key ∉ compiled.map Prod.fst := by
        have hb' := hfree b hb
        rw [mem_keys_insert fragment hkey] at hb'
        exact not_or.mp hb'
      refine ⟨⟨?_, hnodup⟩, ⟨hkey, fun b hb => (hfree' b hb).2⟩, ⟨fragment, hf⟩, hall⟩
      intro hmem
      obtain ⟨b, hb, hba⟩ := List.mem_map.mp hmem
      exact (hfree' b hb).1 hba
    · rintro ⟨⟨hfirst, hnodup⟩, ⟨hkey, hfree⟩, ⟨fragment, hf⟩, hall⟩
      have hfree' : ∀ b ∈ as, b.key ∉ (Entries.insert a.key fragment compiled).map Prod.fst := by
        intro b hb hmem
        rcases (mem_keys_insert fragment hkey).mp hmem with hba | hmem
        · exact hfirst (List.mem_map.mpr ⟨b, hb, hba⟩)
        · exact hfree b hb hmem
      obtain ⟨members, h⟩ := ih.mpr ⟨hnodup, hfree', hall⟩
      exact ⟨members, siblingsWith_cons_eq_ok.mpr ⟨hkey, fragment, hf, h⟩⟩

lemma get?_siblingsWith_of_not_mem {as : List Aggregation} {compiled members : Options}
    (h : x.result (siblingsWith catalog other compiled as) = .ok members) {name : String}
    (hname : name ∉ as.map key) : Entries.get? name members = Entries.get? name compiled := by
  induction as generalizing compiled with
  | nil =>
    obtain rfl := Except.ok.inj h
    rfl
  | cons a as ih =>
    obtain ⟨-, fragment, -, h⟩ := siblingsWith_cons_eq_ok.mp h
    obtain ⟨hne, hname⟩ := not_or.mp (List.mem_cons.not.mp hname)
    rw [ih h hname, Entries.get?_insert_of_ne _ _ hne]

lemma get?_siblingsWith {as : List Aggregation} {compiled members : Options}
    (h : x.result (siblingsWith catalog other compiled as) = .ok members) {a : Aggregation}
    (ha : a ∈ as) : ∃ fragment, x.result (compileWith catalog other a) = .ok fragment ∧
      Entries.get? a.key members = some fragment := by
  have hnodup := (exists_siblingsWith_eq_ok.mp ⟨members, h⟩).1
  induction as generalizing compiled with
  | nil => cases ha
  | cons b as ih =>
    obtain ⟨-, fragment, hf, h⟩ := siblingsWith_cons_eq_ok.mp h
    obtain ⟨hfirst, hnodup⟩ := List.nodup_cons.mp hnodup
    rcases List.mem_cons.mp ha with rfl | ha
    · refine ⟨fragment, hf, ?_⟩
      rw [get?_siblingsWith_of_not_mem h hfirst, Entries.get?_insert_self]
    · exact ih h ha hnodup

lemma attach_eq_ok {key : String} {children : Options} {own fragment : Json} :
    x.result (attach key children own) = .ok fragment ↔
      ∃ members, own = .object members ∧
        fragment = .object (Entries.insert "aggs" (.object children) members) := by
  cases own with
  | object members => simp [attach, eq_comm]
  | _ => simp [attach]

lemma compileWith_eq_ok {a : Aggregation} {method : Method}
    (hm : catalog.method? a.type = some method) {entry : Json} :
    x.result (compileWith catalog other a) = .ok entry ↔
      ∃ own, x.result (method other a) = .ok own ∧
        (a.children = [] ∧ entry = own ∨
          a.children ≠ [] ∧ catalog.isMetric a.type = false ∧
            ∃ children, x.result (siblingsWith catalog other [] a.children) = .ok children ∧
              ∃ members, own = .object members ∧
                entry = .object (Entries.insert "aggs" (.object children) members)) := by
  obtain ⟨key, type, args, options, children⟩ := a
  change catalog.method? type = some method at hm
  rw [compileWith]
  simp only [hm]
  cases children with
  | nil => simp [@eq_comm Json entry]
  | cons child children =>
    cases hmetric : catalog.isMetric type with
    | true => simp
    | false =>
      simp only [List.isEmpty_cons, Bool.not_false, Bool.and_false, Bool.false_eq_true, if_false,
        Context.result_bind_eq_ok, attach_eq_ok, ne_eq, reduceCtorEq, not_false_eq_true, true_and,
        false_and, false_or]

end

section

variable {x : Context}

structure Sound (x : Context) (a : Aggregation) : Prop where
  registered : Catalog.standard.contains a.type = true
  alone : ∃ own, x.result (a.alone.compile .standard) = .ok own ∧
    (a.children ≠ [] → Catalog.standard.isMetric a.type = false ∧ own.isObject = true)

structure StandsFor (x : Context) (a : Aggregation) (entry : Json) : Prop where
  leaf : a.children = [] → x.result (a.alone.compile .standard) = .ok entry
  inner : a.children ≠ [] →
    ∃ children, x.result (compileList .standard a.children) = .ok children ∧
      ∃ members, x.result (a.alone.compile .standard) = .ok (.object members) ∧
        entry = .object (Entries.insert "aggs" (.object children) members)
  free : a.type ≠ "raw" → ∀ own, x.result (a.alone.compile .standard) = .ok own →
    own.get? "aggs" = none
  metric : Catalog.standard.isMetric a.type = true → entry.get? "aggs" = none

lemma compile_alone {a : Aggregation} {method : Method}
    (hm : Catalog.standard.method? a.type = some method) :
    a.alone.compile .standard =
      method (compileDelegated .standard Catalog.standard.size) a := by
  obtain ⟨key, type, args, options, children⟩ := a
  rw [← method_alone hm, compile, alone, compileWith]
  simp only [hm]
  exact bind_pure _

lemma exists_method?_of_compile_eq_ok {a : Aggregation} {entry : Json}
    (h : x.result (a.compile .standard) = .ok entry) :
    ∃ method, Catalog.standard.method? a.type = some method := by
  cases hm : Catalog.standard.method? a.type with
  | some method => exact ⟨method, rfl⟩
  | none =>
    obtain ⟨key, type, args, options, children⟩ := a
    change Catalog.standard.method? type = none at hm
    rw [compile, compileWith] at h
    simp only [hm] at h
    cases h

lemma sound_of_compile_eq_ok {a : Aggregation} {entry : Json}
    (h : x.result (a.compile .standard) = .ok entry) : Sound x a := by
  obtain ⟨method, hm⟩ := exists_method?_of_compile_eq_ok h
  obtain ⟨own, hown, hentry⟩ := (compileWith_eq_ok hm).mp h
  rw [← compile_alone hm] at hown
  refine ⟨?_, own, hown, ?_⟩
  · rw [Catalog.contains_eq_isSome_method?, hm]
    rfl
  · intro hne
    rcases hentry with ⟨hnil, -⟩ | ⟨-, hmetric, children, -, members, rfl, -⟩
    · exact absurd hnil hne
    · exact ⟨hmetric, rfl⟩

lemma standsFor_of_compile_eq_ok {a : Aggregation} {entry : Json}
    (h : x.result (a.compile .standard) = .ok entry) : StandsFor x a entry := by
  obtain ⟨method, hm⟩ := exists_method?_of_compile_eq_ok h
  obtain ⟨own, hown, hentry⟩ := (compileWith_eq_ok hm).mp h
  have hfree (hraw : a.type ≠ "raw") : own.get? "aggs" = none :=
    Catalog.standard_leavesAggs hm hraw _ a rfl x own hown
  rw [← compile_alone hm] at hown
  refine ⟨?_, ?_, ?_, ?_⟩
  · intro hnil
    rcases hentry with ⟨-, rfl⟩ | ⟨hne, -⟩
    · exact hown
    · exact absurd hnil hne
  · intro hne
    rcases hentry with ⟨hnil, -⟩ | ⟨-, -, children, hchildren, members, rfl, rfl⟩
    · exact absurd hnil hne
    · exact ⟨children, hchildren, members, hown, rfl⟩
  · intro hraw own' hown'
    obtain rfl := Except.ok.inj (hown.symm.trans hown')
    exact hfree hraw
  · intro hmetric
    -- A metric has no children and is not raw, so its entry is its own fragment.
    have hraw : a.type ≠ "raw" := by
      intro hraw
      rw [hraw] at hmetric
      exact absurd hmetric (by decide +kernel)
    rcases hentry with ⟨-, rfl⟩ | ⟨-, hbucket, -⟩
    · exact hfree hraw
    · rw [hmetric] at hbucket
      cases hbucket

lemma exists_compile_eq_ok {a : Aggregation} (ha : Sound x a)
    (hchildren : ∃ children, x.result (compileList .standard a.children) = .ok children) :
    ∃ entry, x.result (a.compile .standard) = .ok entry := by
  have hregistered := ha.registered
  rw [Catalog.contains_eq_isSome_method?] at hregistered
  obtain ⟨method, hm⟩ := Option.isSome_iff_exists.mp hregistered
  obtain ⟨own, hown, hinner⟩ := ha.alone
  rw [compile_alone hm] at hown
  by_cases hnil : a.children = []
  · exact ⟨own, (compileWith_eq_ok hm).mpr ⟨own, hown, .inl ⟨hnil, rfl⟩⟩⟩
  · obtain ⟨children, hc⟩ := hchildren
    obtain ⟨hmetric, hobject⟩ := hinner hnil
    obtain ⟨members, rfl⟩ : ∃ members, own = .object members := by
      cases own with
      | object members => exact ⟨members, rfl⟩
      | _ => cases hobject
    exact ⟨_, (compileWith_eq_ok hm).mpr
      ⟨_, hown, .inr ⟨hnil, hmetric, children, hc, members, rfl, rfl⟩⟩⟩

lemma exists_compileList_eq_ok {as : List Aggregation} :
    (∃ members, x.result (compileList .standard as) = .ok members) ↔
      (as.map key).Nodup ∧ ∀ a ∈ as, ∃ entry, x.result (a.compile .standard) = .ok entry := by
  have h := @exists_siblingsWith_eq_ok x .standard
    (compileDelegated .standard Catalog.standard.size) as []
  simp only [List.map_nil, List.not_mem_nil, not_false_eq_true, implies_true, true_and] at h
  exact h

def LevelSound (x : Context) (as : List Aggregation) : Prop :=
  (as.map key).Nodup ∧ ∀ a ∈ as, Sound x a

mutual

lemma exists_compile_of_levels : (a : Aggregation) → Sound x a →
    (∀ bs, Siblings a.children bs → LevelSound x bs) →
    ∃ entry, x.result (a.compile .standard) = .ok entry
  | ⟨_, _, _, _, children⟩, ha, hlevels => by
    obtain ⟨hnodup, hsound⟩ := hlevels children .top
    refine exists_compile_eq_ok ha (exists_compileList_eq_ok.mpr ⟨hnodup, ?_⟩)
    exact exists_compile_of_mem children fun b hb =>
      ⟨hsound b hb, fun bs hbs => hlevels bs (.of_mem hb hbs)⟩

lemma exists_compile_of_mem : (as : List Aggregation) →
    (∀ a ∈ as, Sound x a ∧ ∀ bs, Siblings a.children bs → LevelSound x bs) →
    ∀ a ∈ as, ∃ entry, x.result (a.compile .standard) = .ok entry
  | [], _ => List.forall_mem_nil _
  | a :: as, h => by
    obtain ⟨⟨ha, hlevels⟩, has⟩ := List.forall_mem_cons.mp h
    exact List.forall_mem_cons.mpr
      ⟨exists_compile_of_levels a ha hlevels, exists_compile_of_mem as has⟩

end

lemma Siblings.exists_compileList_eq_ok {as bs : List Aggregation} (h : Siblings as bs)
    {members : Options} (hmembers : x.result (compileList .standard as) = .ok members) :
    ∃ level, x.result (compileList .standard bs) = .ok level := by
  induction h with
  | top => exact ⟨members, hmembers⟩
  | @inside _ b _ hb ih =>
    obtain ⟨level, hlevel⟩ := ih
    obtain ⟨entry, hentry, -⟩ := get?_siblingsWith hlevel hb
    have hstands := standsFor_of_compile_eq_ok hentry
    by_cases hnil : b.children = []
    · rw [hnil]
      exact ⟨[], rfl⟩
    · obtain ⟨children, hchildren, -⟩ := hstands.inner hnil
      exact ⟨children, hchildren⟩

structure Mirrors (x : Context) (as : List Aggregation) (members : Options) : Prop where
  keys : (members.map Prod.fst).Perm (as.map key)
  entries : ∀ a ∈ as, ∃ entry, Entries.get? a.key members = some entry ∧ StandsFor x a entry

lemma mirrors_of_compileList_eq_ok {as : List Aggregation} {members : Options}
    (h : x.result (compileList .standard as) = .ok members) : Mirrors x as members := by
  refine ⟨keys_compileList h, ?_⟩
  intro a ha
  obtain ⟨entry, hentry, hget⟩ := get?_siblingsWith h ha
  exact ⟨entry, hget, standsFor_of_compile_eq_ok hentry⟩

lemma levelSound_of_compileList_eq_ok {as : List Aggregation} {members : Options}
    (h : x.result (compileList .standard as) = .ok members) : LevelSound x as := by
  obtain ⟨hnodup, hall⟩ := exists_compileList_eq_ok.mp ⟨members, h⟩
  refine ⟨hnodup, ?_⟩
  intro a ha
  obtain ⟨entry, hentry⟩ := hall a ha
  exact sound_of_compile_eq_ok hentry

end

/-- A forest compiles if and only if each of its levels is sound, and then each of its levels is
mirrored by what that level compiles to. -/
theorem compileList_faithful (x : Context) (as : List Aggregation) :
    ((∃ members, x.result (compileList .standard as) = .ok members) ↔
        ∀ bs, Siblings as bs → LevelSound x bs) ∧
      ∀ members, x.result (compileList .standard as) = .ok members → Mirrors x as members ∧
        ∀ bs, Siblings as bs →
          ∃ level, x.result (compileList .standard bs) = .ok level ∧ Mirrors x bs level := by
  refine ⟨⟨?_, ?_⟩, ?_⟩
  · rintro ⟨members, hmembers⟩ bs hbs
    obtain ⟨level, hlevel⟩ := hbs.exists_compileList_eq_ok hmembers
    exact levelSound_of_compileList_eq_ok hlevel
  · intro hlevels
    obtain ⟨hnodup, hsound⟩ := hlevels as .top
    refine exists_compileList_eq_ok.mpr ⟨hnodup, ?_⟩
    exact exists_compile_of_mem as fun a ha =>
      ⟨hsound a ha, fun bs hbs => hlevels bs (.of_mem ha hbs)⟩
  · intro members hmembers
    refine ⟨mirrors_of_compileList_eq_ok hmembers, ?_⟩
    intro bs hbs
    obtain ⟨level, hlevel⟩ := hbs.exists_compileList_eq_ok hmembers
    exact ⟨level, hlevel, mirrors_of_compileList_eq_ok hlevel⟩

end Aggregation

end SearchCompiler
