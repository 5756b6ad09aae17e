import SearchCompiler.Proofs.Index.Subtree
import SearchCompiler.Proofs.Lookup.Fetching

/-! What a column is taken for: the rules of a look-up in their order, and the path that the last
of them finds in the mapping. -/

namespace SearchCompiler

open Text (bytes)

namespace FieldTable

def Exact (t : FieldTable) (field path : String) : Prop :=
  ∃ type, t.get? path = some type ∧ (path = field ∨ ∃ rest, path = field ++ "." ++ rest) ∧
    type ∉ [DataType.text, .matchOnlyText, .binary] ∧ type ∉ [DataType.object, .nested]

def Smallest (t : FieldTable) (field path : String) : Prop :=
  t.Exact field path ∧ ∀ other, t.Exact field other → other ≠ path → bytes path < bytes other

variable {t : FieldTable} {field path : String}

lemma isExact_iff {type : DataType} : type.isExact = true ↔
    type ∉ [DataType.text, .matchOnlyText, .binary] ∧ type ∉ [DataType.object, .nested] := by
  cases type <;> simp [DataType.isExact, DataType.isAnalysed, DataType.isBranch]

lemma exact_iff : t.Exact field path ↔
    ∃ type, (path, type) ∈ t.subtree field ∧ type.isExact = true := by
  simp only [Exact, mem_subtree, covers_iff, isExact_iff, and_assoc]

lemma smallest_of_exactPath? (h : t.exactPath? field = some path) : t.Smallest field path := by
  obtain ⟨front, type, back, hsplit, hexact, hfront⟩ := exactPath?_eq_some.mp h
  have hmem : (path, type) ∈ t.subtree field := by simp [hsplit]
  refine ⟨exact_iff.mpr ⟨type, hmem, hexact⟩, fun other hother hne => ?_⟩
  obtain ⟨type', hmem', hexact'⟩ := exact_iff.mp hother
  rw [hsplit] at hmem'
  rcases List.mem_append.mp hmem' with hmem' | hmem'
  · rw [hfront _ hmem'] at hexact'
    cases hexact'
  rcases List.mem_cons.mp hmem' with heq | hmem'
  · exact absurd (congrArg Prod.fst heq) hne
  have hasc := t.ascending_subtree field
  rw [hsplit] at hasc
  have hbehind := (List.pairwise_cons.mp (List.pairwise_append.mp hasc).2.1).1
  exact Text.bytes_lt_bytes.mpr (hbehind _ hmem')

lemma exactPath?_eq_none_iff : t.exactPath? field = none ↔ ¬ ∃ path, t.Exact field path := by
  simp only [exactPath?_eq_none, exact_iff, Prod.forall, not_exists, not_and, Bool.not_eq_true]

lemma exactPath?_eq_some_iff : t.exactPath? field = some path ↔ t.Smallest field path := by
  refine ⟨smallest_of_exactPath?, fun h => ?_⟩
  cases hpath : t.exactPath? field with
  | none => exact absurd ⟨path, h.1⟩ (exactPath?_eq_none_iff.mp hpath)
  | some found =>
    have hfound := smallest_of_exactPath? hpath
    by_contra hne
    have hlt : bytes path < bytes found := h.2 found hfound.1 fun heq => hne (congrArg some heq)
    have hgt : bytes found < bytes path :=
      hfound.2 path h.1 fun heq => hne (congrArg some heq.symm)
    exact List.lt_asymm hlt hgt

structure Finds (t : FieldTable) (field index : String) (found : Except Failure String) : Prop where
  path : ∀ path, found = .ok path ↔ t.Smallest field path
  missing : found = .error (.noExactField field index) ↔ ¬ ∃ path, t.Exact field path
  otherwise : ∀ e, found = .error e → e = .noExactField field index

lemma finds_pathIn (s : Source) (t : FieldTable) (field : String) :
    t.Finds field s.index (s.pathIn field t) := by
  rw [Source.pathIn]
  cases h : t.exactPath? field with
  | some path =>
    have hsome {other : String} : path = other ↔ t.Smallest field other := by
      rw [← exactPath?_eq_some_iff, h, Option.some.injEq]
    constructor
    · intro other
      rw [Except.ok.injEq, hsome]
    · rw [← exactPath?_eq_none_iff, h]
      simp
    · rintro e ⟨⟩
  | none =>
    have hnone := exactPath?_eq_none_iff.mp h
    constructor
    · intro path
      constructor
      · rintro ⟨⟩
      · intro hpath
        exact absurd ⟨path, hpath.1⟩ hnone
    · exact iff_of_true rfl hnone
    · rintro e ⟨⟩
      rfl

end FieldTable

namespace Source

variable {column : String}

def engineColumns : List String := ["id", "_id", "_score", "_count", "_key", "_doc"]

lemma wellKnown?_of_id (h : column = "id" ∨ column = "_id") : wellKnown? column = some "_id" := by
  rcases h with rfl | rfl <;> rfl

lemma wellKnown?_of_pseudo (h : column ∈ ["_score", "_count", "_key", "_doc"]) :
    wellKnown? column = some column := by
  simp only [List.mem_cons, List.not_mem_nil, or_false] at h
  rcases h with rfl | rfl | rfl | rfl <;> rfl

lemma wellKnown?_eq_none (h : column ∉ engineColumns) : wellKnown? column = none := by
  simp only [engineColumns, List.mem_cons, List.not_mem_nil, or_false, not_or] at h
  simp [wellKnown?, idColumn, pseudoColumns, h]

end Source

namespace Context

variable {α : Type} {x : Context} {field : String}

def run (x : Context) (c : Compile α) : Except Failure α × Memory :=
  (c.overriding x.overrides x.settings).run x.source x.memory

lemma run_lookUp_of_wellKnown {path : String} (h : Source.wellKnown? field = some path) :
    x.run (Compile.lookUp field) = (.ok path, x.memory) := by
  rw [run, Compile.overriding, Compile.lookUp, Lookup.overriding, h]
  exact Source.lookUp_of_wellKnown h

lemma run_lookUp_of_override {path : String} (h : field ∉ Source.engineColumns)
    (hpath : x.overrides.get? field = some path) :
    x.run (Compile.lookUp field) = (.ok path, x.memory) := by
  rw [run, Compile.overriding, Compile.lookUp, Lookup.overriding, Source.wellKnown?_eq_none h,
    hpath]
  rfl

lemma run_lookUp (h : x.overrides.get? field = none) :
    x.run (Compile.lookUp field) = x.source.lookUp field x.memory := by
  rw [run, Compile.overriding, Compile.lookUp, Lookup.overriding, h]
  cases Source.wellKnown? field <;> rfl

lemma run_lookUp_of_trusting (h : field ∉ Source.engineColumns)
    (hnone : x.overrides.get? field = none) (htrust : x.source.trusting = true) :
    x.run (Compile.lookUp field) = (.ok field, x.memory) := by
  rw [run_lookUp hnone]
  exact Source.lookUp_of_trusted htrust (Source.wellKnown?_eq_none h)

structure LeftToMapping (x : Context) (field : String) : Prop where
  own : field ∉ Source.engineColumns
  overrides : x.overrides.get? field = none
  checked : x.source.trusting = false

lemma LeftToMapping.run_lookUp (h : x.LeftToMapping field) :
    x.run (Compile.lookUp field) = ((x.source.fields x.memory).1.bind (x.source.pathIn field),
      (x.source.fields x.memory).2) := by
  rw [Context.run_lookUp h.overrides]
  exact Source.lookUp_of_checked h.checked (Source.wellKnown?_eq_none h.own)

/-- The rules of a look-up in their order. The last one reads the mapping of the index, and asks
for it if none is kept. -/
structure Resolves (x : Context) (field : String) (answer : Except Failure String × Memory) :
    Prop where
  id : field = "id" ∨ field = "_id" → answer = (.ok "_id", x.memory)
  pseudo : field ∈ ["_score", "_count", "_key", "_doc"] → answer = (.ok field, x.memory)
  overridden : field ∉ Source.engineColumns → ∀ path, x.overrides.get? field = some path →
    answer = (.ok path, x.memory)
  trusted : field ∉ Source.engineColumns → x.overrides.get? field = none →
    x.source.trusting = true → answer = (.ok field, x.memory)
  kept : x.LeftToMapping field → ∀ t, x.memory.cache.get? x.source.index = some t →
    t.Finds field x.source.index answer.1 ∧ answer.2 = x.memory
  fetched : x.LeftToMapping field → x.memory.cache.get? x.source.index = none →
    ∀ t, x.source.provider x.source.index = .ok t →
      t.Finds field x.source.index answer.1 ∧ answer.2 = {
        cache := x.memory.cache.insert x.source.index t
        requests := x.memory.requests ++ [x.source.index] }
  unfetched : x.LeftToMapping field → x.memory.cache.get? x.source.index = none →
    ∀ e, x.source.provider x.source.index = .error e →
      answer = (.error e, { x.memory with requests := x.memory.requests ++ [x.source.index] })
  fails : x.LeftToMapping field → ∀ e, answer.1 = .error e ↔
    x.memory.cache.get? x.source.index = none ∧ x.source.provider x.source.index = .error e ∨
    e = .noExactField field x.source.index ∧
      ∃ t, x.source.mapping x.memory = .ok t ∧ ¬ ∃ path, t.Exact field path

theorem resolves (x : Context) (field : String) :
    x.Resolves field (x.run (Compile.lookUp field)) := by
  constructor
  · intro h
    exact run_lookUp_of_wellKnown (Source.wellKnown?_of_id h)
  · intro h
    exact run_lookUp_of_wellKnown (Source.wellKnown?_of_pseudo h)
  · intro h path hpath
    exact run_lookUp_of_override h hpath
  · intro h hnone htrust
    rw [run_lookUp hnone]
    simp [Source.lookUp, Source.wellKnown?_eq_none h, htrust]
  · intro h t ht
    rw [h.run_lookUp, Source.fields_of_cached ht]
    exact ⟨FieldTable.finds_pathIn x.source t field, rfl⟩
  · intro h hnone t ht
    rw [h.run_lookUp, Source.fields_of_fetched hnone ht]
    exact ⟨FieldTable.finds_pathIn x.source t field, rfl⟩
  · intro h hnone e he
    rw [h.run_lookUp, Source.fields_of_failed hnone he]
    rfl
  · intro h e
    rw [h.run_lookUp, Source.fields_fst, ← Source.mapping_eq_error_iff]
    cases x.source.mapping x.memory with
    | error e' => simp [Except.bind]
    | ok t =>
      have hfinds := FieldTable.finds_pathIn x.source t field
      simp only [Except.bind, reduceCtorEq, false_or, Except.ok.injEq, exists_eq_left']
      constructor
      · intro he
        obtain rfl := hfinds.otherwise e he
        exact ⟨rfl, hfinds.missing.mp he⟩
      · rintro ⟨rfl, hnone⟩
        exact hfinds.missing.mpr hnone

end Context

end SearchCompiler
