import SearchCompiler.Proofs.Lookup.Evaluation

/-! The memory that a run leaves. It is as it was, up to fetches that failed, or one mapping was
fetched into it; the mapping that a look-up reads is kept from then on. -/

namespace SearchCompiler

namespace Source

variable {s : Source} {m m' m'' : Memory}

inductive Leaves (s : Source) (m : Memory) : Memory → Prop
  | kept : Leaves s m m
  | failed {n e} : s.provider s.index = .error e →
      Leaves s m { m with requests := m.requests ++ List.replicate n s.index }
  | fetched {t} : m.cache.get? s.index = none → s.provider s.index = .ok t →
      Leaves s m ⟨m.cache.insert s.index t, m.requests ++ [s.index]⟩

lemma Leaves.trans (h : s.Leaves m m') (h' : s.Leaves m' m'') : s.Leaves m m'' := by
  cases h with
  | kept => exact h'
  | @failed n e he =>
    cases h' with
    | kept => exact .failed he
    | @failed n' _ he' =>
      rw [List.append_assoc, List.replicate_append_replicate]
      exact .failed he
    | fetched _ ht => cases he.symm.trans ht
  | fetched hc ht =>
    cases h' with
    | kept => exact .fetched hc ht
    | failed he => cases he.symm.trans ht
    | fetched hc' _ => cases hc'.symm.trans (Dict.get?_insert_self _ _ _)

lemma Leaves.get? (h : s.Leaves m m') {t : FieldTable} (ht : m.cache.get? s.index = some t) :
    m'.cache.get? s.index = some t := by
  cases h with
  | kept => exact ht
  | failed _ => exact ht
  | fetched hc _ => cases ht.symm.trans hc

lemma fields_leaves (s : Source) (m : Memory) : s.Leaves m (s.fields m).2 := by
  obtain hc | ⟨t, hc⟩ := Option.eq_none_or_eq_some (m.cache.get? s.index)
  · simp only [fields, Cache.recall, Dict.contains, hc]
    cases hp : s.provider s.index with
    | ok t => exact .fetched hc hp
    | error e => exact .failed (n := 1) hp
  · simp only [fields, Cache.recall, Dict.contains, hc]
    exact .kept

lemma get?_fields {t : FieldTable} (h : (s.fields m).1 = .ok t) :
    (s.fields m).2.cache.get? s.index = some t := by
  rw [fields_fst, mapping] at h
  simp only [fields, Cache.recall]
  cases hc : m.cache.get? s.index with
  | some t' =>
    rw [hc] at h
    exact hc.trans (congrArg some (Except.ok.inj h))
  | none =>
    rw [hc] at h
    rw [show s.provider s.index = .ok t from h]
    exact Dict.get?_insert_self _ _ _

lemma lookUp_leaves (s : Source) (column : String) (m : Memory) :
    s.Leaves m (s.lookUp column m).2 := by
  rw [lookUp]
  cases wellKnown? column with
  | some name => exact .kept
  | none =>
    by_cases ht : s.trusting
    · simp only [ht, if_true]
      exact .kept
    · simp only [ht]
      exact s.fields_leaves m

def fields? (s : Source) (m : Memory) : Option FieldTable := (s.fields m).1.toOption

lemma fields?_eq_some {t : FieldTable} (h : s.fields? m = some t) : (s.fields m).1 = .ok t := by
  rw [fields?] at h
  cases hf : (s.fields m).1 with
  | ok t' =>
    rw [hf] at h
    exact congrArg _ (Option.some.inj h)
  | error e =>
    rw [hf] at h
    cases h

def used (s : Source) (column : String) (m : Memory) : Option FieldTable :=
  match wellKnown? column with
  | some _ => none
  | none => if s.trusting then none else s.fields? m

lemma used_eq_some {column : String} {t : FieldTable} (h : s.used column m = some t) :
    (s.fields m).1 = .ok t ∧ (s.lookUp column m).2 = (s.fields m).2 := by
  rw [used] at h
  rw [lookUp]
  cases hw : wellKnown? column with
  | some name =>
    rw [hw] at h
    cases h
  | none =>
    rw [hw] at h
    by_cases ht : s.trusting
    · simp [ht] at h
    · simp only [ht] at h ⊢
      exact ⟨fields?_eq_some h, rfl⟩

end Source

namespace Lookup

variable {α : Type} {s : Source}

lemma run_leaves (s : Source) (l : Lookup α) (m : Memory) : s.Leaves m (l.run s m).2 := by
  induction l generalizing m with
  | done r => exact .kept
  | column name next ih => exact (s.lookUp_leaves name m).trans (ih _ _)

def uses (s : Source) : Lookup α → Memory → List FieldTable
  | done _, _ => []
  | column name next, m =>
    (s.used name m).toList ++ (next (s.lookUp name m).1).uses s (s.lookUp name m).2

lemma mem_uses {l : Lookup α} {m : Memory} {t : FieldTable} (h : t ∈ l.uses s m) :
    s.mapping m = .ok t ∧ (l.run s m).2.cache.get? s.index = some t := by
  induction l generalizing m with
  | done r => cases h
  | column name next ih =>
    rcases List.mem_append.mp h with h | h
    · obtain ⟨hf, hm⟩ := Source.used_eq_some (Option.mem_toList.mp h)
      have hkept : (s.lookUp name m).2.cache.get? s.index = some t := hm ▸ Source.get?_fields hf
      have hleaves := run_leaves s (next (s.lookUp name m).1) (s.lookUp name m).2
      exact ⟨s.fields_fst m ▸ hf, hleaves.get? hkept⟩
    · obtain ⟨hmapping, hkept⟩ := ih _ h
      exact ⟨s.mapping_lookUp name m ▸ hmapping, hkept⟩

end Lookup

end SearchCompiler
