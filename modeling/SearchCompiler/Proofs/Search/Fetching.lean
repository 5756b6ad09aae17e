import SearchCompiler.Proofs.Lookup.Fetching
import SearchCompiler.Proofs.Search.Trusting

/-! What one question does to the memory of its target. It asks for the mapping of the target's own
index, once and if it has to, and adds what it gets to what is there. -/

namespace SearchCompiler

open Compile (Parallel Steady)

namespace Question

def isOneCall : Question → Bool
  | .fields _ _ => false
  | _ => true

lemma steady_answer {α : Type} {R : α → α → Prop} {c : Compile α} (hc : Parallel R c c)
    (f : α → Answer) : Steady (do return f (← c)) := by
  apply hc.bind
  intro x x' _
  exact .pure trivial

lemma compile_steady {catalog : Catalog} (hc : catalog.Steady) {q : Question}
    (hq : q.isOneCall = true) : Steady (q.compile catalog) := by
  cases q with
  | field column =>
    apply Parallel.lookUp
    intro path path'
    exact .pure trivial
  | fields overrides columns => cases hq
  | query clauses => exact steady_answer (Clause.compileList_steady clauses) _
  | assertion clause => exact steady_answer (Clause.assertion_steady none clause) _
  | aggregations as => exact steady_answer (Aggregation.compileList_parallel hc as) _
  | aggregation a =>
    have hother := Aggregation.compileDelegated_parallel hc catalog.size
    exact steady_answer (Aggregation.compileWith_parallel hc hother a) _
  | grouping g => exact steady_answer (g.compile_parallel hc) _
  | sort keys patches => exact steady_answer (sortSection_steady keys patches) _
  | patched entries patches =>
    exact steady_answer (SortPatch.applyAll_parallel entries entries patches) _
  | innerHits keys offset limit => exact steady_answer (innerHitsOf_steady keys offset limit) _
  | highlight h =>
    apply Parallel.read
    intro s s'
    exact .pure trivial
  | request search => exact steady_answer (search.compile_steady hc) _

end Question

namespace Target

def asked (t : Target) (provider : Provider) (m : Memory) (q : Question) : List String :=
  (t.ask provider m q).2.requests.drop m.requests.length

def needsMapping (t : Target) (q : Question) : Bool :=
  !t.settings.trusting && (q.compile t.catalog t.settings).needsMapping

structure FetchesOnce (t : Target) (provider : Provider) (m : Memory) (q : Question) : Prop where
  logged : (t.ask provider m q).2.requests = m.requests ++ t.asked provider m q
  once : t.asked provider m q = [] ∨
    t.asked provider m q = [t.index] ∧ m.cache.get? t.index = none
  needed : t.asked provider m q = [t.index] ↔
    t.needsMapping q = true ∧ m.cache.get? t.index = none
  unasked : t.asked provider m q = [] → (t.ask provider m q).2.cache = m.cache
  fetched : ∀ fields, t.asked provider m q = [t.index] → provider t.index = .ok fields →
    (t.ask provider m q).2.cache = m.cache.insert t.index fields
  failed : ∀ e, t.asked provider m q = [t.index] → provider t.index = .error e →
    (t.ask provider m q).1 = .error e ∧ (t.ask provider m q).2.cache = m.cache
  again : ∀ e, t.asked provider m q = [t.index] → provider t.index = .error e →
    ∀ (t' : Target) (provider' : Provider) (q' : Question), t'.index = t.index →
      t'.catalog = .standard → q'.isOneCall = true → t'.needsMapping q' = true →
      t'.asked provider' (t.ask provider m q).2 q' = [t.index]
  kept : ∀ index fields, m.cache.get? index = some fields →
    (t.ask provider m q).2.cache.get? index = some fields

variable {t : Target} {m : Memory} {q : Question}

lemma ask_of_needless (provider : Provider)
    (hn : ¬ (t.needsMapping q = true ∧ m.cache.get? t.index = none)) :
    (t.ask provider m q).2 = m := by
  rw [ask]
  by_cases ht : t.settings.trusting = true
  · exact Source.run_of_trusting ht _ m
  · obtain hc | ⟨fields, hc⟩ := Option.eq_none_or_eq_some (m.cache.get? t.index)
    · have hneedless : (q.compile t.catalog t.settings).needsMapping = false := by
        simpa [needsMapping, ht, hc] using hn
      exact Lookup.run_of_needless hneedless
    · exact Lookup.run_of_cached hc

lemma ask_of_needed (hs : Steady (q.compile t.catalog)) (provider : Provider)
    (hn : t.needsMapping q = true) (hc : m.cache.get? t.index = none) :
    (∃ fields, provider t.index = .ok fields ∧ (t.ask provider m q).2 =
      ⟨m.cache.insert t.index fields, m.requests ++ [t.index]⟩) ∨
    (∃ e, provider t.index = .error e ∧ t.ask provider m q =
      (.error e, ⟨m.cache, m.requests ++ [t.index]⟩)) := by
  obtain ⟨ht, hneeds⟩ := Bool.and_eq_true_iff.mp hn
  have htrust : (t.source provider).trusting = false := by simpa [source] using ht
  cases hp : provider t.index with
  | ok fields => exact .inl ⟨fields, rfl, Lookup.run_of_fetched htrust hneeds hc hp⟩
  | error e =>
    exact .inr ⟨e, rfl, (hs t.settings t.settings).run_of_failed htrust hneeds hc hp⟩

/-- What is asked is decided by the question and the cache, before the provider says anything. -/
lemma asked_eq (hs : Steady (q.compile t.catalog)) (provider : Provider) :
    t.asked provider m q =
      if t.needsMapping q = true ∧ m.cache.get? t.index = none then [t.index] else [] := by
  rw [asked]
  split
  · rename_i hn
    rcases ask_of_needed hs provider hn.1 hn.2 with ⟨fields, -, hm⟩ | ⟨e, -, ha⟩
    · rw [hm, List.drop_left]
    · rw [ha, List.drop_left]
  · rename_i hn
    rw [ask_of_needless provider hn, List.drop_length]

lemma fetchesOnce_of_needless (hs : Steady (q.compile t.catalog)) (provider : Provider)
    (hn : ¬ (t.needsMapping q = true ∧ m.cache.get? t.index = none)) :
    t.FetchesOnce provider m q := by
  have hm : (t.ask provider m q).2 = m := ask_of_needless provider hn
  have hasked : t.asked provider m q = [] := by rw [asked_eq hs, if_neg hn]
  have hnot : t.asked provider m q ≠ [t.index] := by simp [hasked]
  constructor
  · rw [hm, hasked, List.append_nil]
  · exact .inl hasked
  · exact ⟨fun h => absurd h hnot, fun h => absurd h hn⟩
  · intro _
    rw [hm]
  · exact fun _ h => absurd h hnot
  · exact fun _ h => absurd h hnot
  · exact fun _ h => absurd h hnot
  · intro index fields hget
    rw [hm]
    exact hget

lemma fetchesOnce_of_fetched (hs : Steady (q.compile t.catalog)) {provider : Provider}
    (hn : t.needsMapping q = true ∧ m.cache.get? t.index = none) {fields : FieldTable}
    (hp : provider t.index = .ok fields)
    (hm : (t.ask provider m q).2 =
      ⟨m.cache.insert t.index fields, m.requests ++ [t.index]⟩) :
    t.FetchesOnce provider m q := by
  have hasked : t.asked provider m q = [t.index] := by rw [asked_eq hs, if_pos hn]
  constructor
  · rw [hm, hasked]
  · exact .inr ⟨hasked, hn.2⟩
  · exact ⟨fun _ => hn, fun _ => hasked⟩
  · intro hnone
    cases hasked.symm.trans hnone
  · intro fields' _ hp'
    cases hp.symm.trans hp'
    rw [hm]
  · intro e _ hp'
    cases hp.symm.trans hp'
  · intro e _ hp'
    cases hp.symm.trans hp'
  · intro index fields' hget
    have hne : index ≠ t.index := by
      rintro rfl
      cases hn.2.symm.trans hget
    rw [hm]
    exact (Dict.get?_insert_of_ne _ _ hne).trans hget

lemma fetchesOnce_of_failed (hs : Steady (q.compile t.catalog)) {provider : Provider}
    (hn : t.needsMapping q = true ∧ m.cache.get? t.index = none) {e : Failure}
    (hp : provider t.index = .error e)
    (ha : t.ask provider m q = (.error e, ⟨m.cache, m.requests ++ [t.index]⟩)) :
    t.FetchesOnce provider m q := by
  have hasked : t.asked provider m q = [t.index] := by rw [asked_eq hs, if_pos hn]
  constructor
  · rw [ha, hasked]
  · exact .inr ⟨hasked, hn.2⟩
  · exact ⟨fun _ => hn, fun _ => hasked⟩
  · intro hnone
    cases hasked.symm.trans hnone
  · intro fields _ hp'
    cases hp.symm.trans hp'
  · intro e' _ hp'
    cases hp.symm.trans hp'
    rw [ha]
    exact ⟨rfl, rfl⟩
  · intro e' _ _ t' provider' q' hindex ht' hq' hn'
    have hc' : t'.catalog.Steady := ht' ▸ Catalog.standard_steady
    rw [asked_eq (Question.compile_steady hc' hq'), hindex, ha, if_pos ⟨hn', hn.2⟩]
  · intro index fields hget
    rw [ha]
    exact hget

theorem fetches_once (ht : t.catalog = .standard) (hq : q.isOneCall = true) (provider : Provider)
    (m : Memory) : t.FetchesOnce provider m q := by
  have hs : Steady (q.compile t.catalog) :=
    Question.compile_steady (ht ▸ Catalog.standard_steady) hq
  by_cases hn : t.needsMapping q = true ∧ m.cache.get? t.index = none
  · rcases ask_of_needed hs provider hn.1 hn.2 with ⟨fields, hp, hm⟩ | ⟨e, hp, ha⟩
    · exact fetchesOnce_of_fetched hs hn hp hm
    · exact fetchesOnce_of_failed hs hn hp ha
  · exact fetchesOnce_of_needless hs provider hn

theorem fetches_once_bios :
    people.catalog = .standard ∧ (Question.request byBio).isOneCall = true ∧
    people.asked bios {} (.request byBio) = ["people"] ∧
    people.FetchesOnce bios {} (.request byBio) :=
  ⟨rfl, rfl, rfl, fetches_once rfl rfl bios {}⟩

end Target

end SearchCompiler
