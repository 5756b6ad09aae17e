import SearchCompiler.Proofs.Aggregation.Parallel
import SearchCompiler.Target

/-! A search whose columns are trusted has the faults of the caller that it has under a mapping, and
no others. -/

namespace SearchCompiler

open Compile (Parallel Steady)

namespace Search

lemma querySection_steady (scored filters : List Clause) :
    Steady (querySection scored filters) := by
  apply Parallel.bind (Clause.compileList_steady scored)
  intro query query' _
  split
  · exact .pure trivial
  · apply Parallel.bind (Clause.compileList_steady filters)
    intro filter filter' _
    exact .pure trivial

lemma postFilterSection_steady (clauses : List Clause) : Steady (postFilterSection clauses) := by
  rw [postFilterSection]
  split
  · exact .pure trivial
  · apply Parallel.bind (Clause.compileList_steady clauses)
    intro query query' _
    exact .pure trivial

lemma addLevels_parallel {as as' levels levels' : Options} (ha : as.SameKeys as')
    (hl : levels.SameKeys levels') :
    Parallel Options.SameKeys (addLevels as levels) (addLevels as' levels') := by
  induction levels generalizing as as' levels' with
  | nil =>
    obtain rfl := List.map_eq_nil_iff.mp hl.symm
    exact .pure ha
  | cons level levels ih =>
    obtain ⟨level', levels', rfl, hkey, hl⟩ := List.map_eq_cons_iff.mp hl.symm
    rw [addLevels, addLevels, hkey, Entries.hasKey_congr ha]
    split
    · exact .fail rfl
    · exact ih (Entries.keys_insert_congr ha level.1 _ _) hl.symm

variable {catalog : Catalog}

lemma aggregationSection_parallel (hc : catalog.Steady) (as : List Aggregation)
    (grouping : Option Grouping) :
    Parallel Options.SameKeys (aggregationSection catalog as grouping)
      (aggregationSection catalog as grouping) := by
  apply Parallel.bind (Aggregation.compileList_parallel hc as)
  intro members members' hm
  cases grouping with
  | none => exact .pure hm
  | some g =>
    apply Parallel.bind (g.compile_parallel hc)
    intro levels levels' hl
    exact addLevels_parallel hm hl

lemma compile_steady (hc : catalog.Steady) (search : Search) :
    Steady (search.compile catalog) := by
  apply Parallel.overriding
  apply Parallel.bind (querySection_steady search.scored search.filters)
  intro query query' _
  apply Parallel.bind (postFilterSection_steady search.postFilters)
  intro postFilter postFilter' _
  apply Parallel.bind (aggregationSection_parallel hc search.aggregations search.grouping)
  intro members members' _
  apply Parallel.bind (sortSection_steady search.sortKeys search.sortPatches)
  intro sort sort' _
  apply Parallel.read
  intro s s'
  exact .pure trivial

end Search

namespace Source

variable {s : Source}

def trusted (column : String) : String := (wellKnown? column).getD column

lemma reply_of_trusting (hs : s.trusting = true) (mapping : Except Failure FieldTable) :
    s.reply mapping = fun column => .ok (trusted column) := by
  funext column
  rw [reply, trusted]
  cases wellKnown? column with
  | some name => rfl
  | none => simp [hs]

lemma lookUp_of_trusting (hs : s.trusting = true) (column : String) (m : Memory) :
    (s.lookUp column m).2 = m := by
  rw [lookUp]
  cases wellKnown? column with
  | some name => rfl
  | none => simp [hs]

lemma run_of_trusting {α : Type} (hs : s.trusting = true) (l : Lookup α) (m : Memory) :
    (l.run s m).2 = m := by
  induction l generalizing m with
  | done r => rfl
  | column name next ih =>
    change ((next (s.lookUp name m).1).run s (s.lookUp name m).2).2 = m
    rw [ih, lookUp_of_trusting hs]

end Source

namespace Provider

def FailsByMapping (provider : Provider) : Prop :=
  ∀ i e, provider i = .error e → ∃ index reason, e = .mappingUnavailable index reason

lemma ofTable_failsByMapping (reason : String) (table : Dict FieldTable) :
    (ofTable reason table).FailsByMapping := by
  intro i e h
  rw [ofTable] at h
  split at h
  · cases h
  · exact ⟨i, reason, (Except.error.inj h).symm⟩

end Provider

namespace Target

def searched (t : Target) (profile : Profile) (provider : Provider) (m : Memory)
    (search : Search) : Except Failure Answer × Memory :=
  ({ t with settings := t.settings.applying profile } : Target).ask provider m (.request search)

structure Trusts (t : Target) (provider : Provider) (m : Memory) (search : Search) : Prop where
  memory : (t.searched .trusting provider m search).2 = m
  blind : ∀ provider' m', (t.searched .trusting provider' m' search).1 =
    (t.searched .trusting provider m search).1
  caller : ∀ e, (t.searched .trusting provider m search).1 = .error e → e.isByCaller = true
  succeeds : ∀ a, (t.searched .strict provider m search).1 = .ok a →
    ∃ b, (t.searched .trusting provider m search).1 = .ok b
  same : ∀ e, (t.searched .strict provider m search).1 = .error e → e.isByCaller = true →
    (t.searched .trusting provider m search).1 = .error e
  others : ∀ e, (t.searched .strict provider m search).1 = .error e → e.isByCaller = false →
    (∃ column, e = .noExactField column t.index) ∨
      ∃ index reason, e = .mappingUnavailable index reason

variable (t : Target) (provider : Provider) (m : Memory) (search : Search)

def compiled (profile : Profile) : Lookup Answer :=
  (Question.request search).compile t.catalog (t.settings.applying profile)

lemma searched_trusting_fst :
    (t.searched .trusting provider m search).1 =
      (t.compiled search .trusting).eval fun column => .ok (Source.trusted column) := by
  rw [searched, ask]
  rw [Lookup.run_fst, Source.reply_of_trusting rfl]
  rfl

lemma searched_strict_fst :
    (t.searched .strict provider m search).1 = (t.compiled search .strict).eval
      ((Source.mk t.index provider false).reply ((Source.mk t.index provider false).mapping m)) :=
  Lookup.run_fst _ _ m

variable {t}

lemma compiled_parallel (hc : t.catalog.Steady) (profile profile' : Profile) :
    Lookup.Parallel (fun _ _ => True) (t.compiled search profile)
      (t.compiled search profile') := by
  have hq : Steady ((Question.request search).compile t.catalog) := by
    apply Parallel.bind (search.compile_steady hc)
    intro request request' _
    exact .pure trivial
  exact hq _ _

lemma caller_of_searched_trusting (hc : t.catalog.Steady) {e : Failure}
    (he : (t.searched .trusting provider m search).1 = .error e) : e.isByCaller = true := by
  rw [searched_trusting_fst] at he
  exact (compiled_parallel search hc .strict .trusting).isByCaller Source.trusted he

lemma searched_cases (hc : t.catalog.Steady) :
    (∃ a b, (t.searched .strict provider m search).1 = .ok a ∧
      (t.searched .trusting provider m search).1 = .ok b) ∨
    (∃ e, e.isByCaller = true ∧ (t.searched .strict provider m search).1 = .error e ∧
      (t.searched .trusting provider m search).1 = .error e) ∨
    (∃ e, ((∃ column, e = .noExactField column t.index) ∨ provider t.index = .error e) ∧
      (t.searched .strict provider m search).1 = .error e) := by
  rw [searched_trusting_fst, searched_strict_fst]
  have hends := (compiled_parallel search hc .strict .trusting).eval
    ((Source.mk t.index provider false).reply ((Source.mk t.index provider false).mapping m))
    Source.trusted
  rcases hends with ⟨a, b, ha, hb, -⟩ | ⟨e, hcaller, he, he'⟩ | ⟨column, e, hreply, he⟩
  · exact .inl ⟨a, b, ha, hb⟩
  · exact .inr (.inl ⟨e, hcaller, he, he'⟩)
  · refine .inr (.inr ⟨e, ?_, he⟩)
    exact (Source.reply_eq_error hreply).imp_left fun h => ⟨column, h⟩

theorem trusts (ht : t.catalog = .standard) (hp : provider.FailsByMapping) :
    t.Trusts provider m search := by
  have hc : t.catalog.Steady := ht ▸ Catalog.standard_steady
  have hcases := searched_cases provider m search hc
  have hcause {e : Failure}
      (h : (∃ column, e = .noExactField column t.index) ∨ provider t.index = .error e) :
      (∃ column, e = .noExactField column t.index) ∨
        ∃ index reason, e = .mappingUnavailable index reason := h.imp_right (hp t.index e)
  refine ⟨Source.run_of_trusting rfl _ m, ?_, ?_, ?_, ?_, ?_⟩
  · intro provider' m'
    rw [searched_trusting_fst, searched_trusting_fst]
  · intro e he
    exact caller_of_searched_trusting provider m search hc he
  · intro a ha
    rcases hcases with ⟨_, b, -, hb⟩ | ⟨e, -, he, -⟩ | ⟨e, -, he⟩
    · exact ⟨b, hb⟩
    · cases ha.symm.trans he
    · cases ha.symm.trans he
  · intro e he hcaller
    rcases hcases with ⟨_, _, ha, -⟩ | ⟨e', -, he', hsame⟩ | ⟨e', hfault, he'⟩
    · cases he.symm.trans ha
    · cases he.symm.trans he'
      exact hsame
    · cases he.symm.trans he'
      rcases hcause hfault with ⟨column, rfl⟩ | ⟨index, reason, rfl⟩
      · cases hcaller
      · cases hcaller
  · intro e he hcaller
    rcases hcases with ⟨_, _, ha, -⟩ | ⟨e', hcaller', he', -⟩ | ⟨e', hfault, he'⟩
    · cases he.symm.trans ha
    · cases he.symm.trans he'
      cases hcaller.symm.trans hcaller'
    · cases he.symm.trans he'
      exact hcause hfault

def people : Target := { index := "people" }

def bios : Provider := .ofTable "gone" (.ofList [("people", .ofPairs [("bio", "text")])])

def byBio : Search := {
  scored := [{ form := .condition (.term "bio" (.string "rust")) }]
  grouping := some { fields := ["bio"] } }

theorem trusts_people :
    people.catalog = .standard ∧ bios.FailsByMapping ∧
    (people.searched .strict bios {} byBio).1 = .error (.noExactField "bio" "people") ∧
    people.Trusts bios {} byBio :=
  ⟨rfl, Provider.ofTable_failsByMapping _ _, rfl,
    trusts bios {} byBio rfl (Provider.ofTable_failsByMapping _ _)⟩

end Target

end SearchCompiler
