import SearchCompiler.Proofs.Lookup.Memory
import SearchCompiler.Proofs.Lookup.Parallel

/-! A mapping is fetched when a column first needs one. From then on it is kept, or the computation
has failed. -/

namespace SearchCompiler

namespace Source

variable {s : Source} {m : Memory} {column : String} {t : FieldTable} {e : Failure}

lemma fields_of_cached (hc : m.cache.get? s.index = some t) : s.fields m = (.ok t, m) := by
  simp only [fields, Cache.recall, Dict.contains, hc]
  rfl

lemma fields_of_fetched (hc : m.cache.get? s.index = none) (hp : s.provider s.index = .ok t) :
    s.fields m = (.ok t, ⟨m.cache.insert s.index t, m.requests ++ [s.index]⟩) := by
  simp only [fields, Cache.recall, Dict.contains, hc, hp]
  rfl

lemma fields_of_failed (hc : m.cache.get? s.index = none) (hp : s.provider s.index = .error e) :
    s.fields m = (.error e, ⟨m.cache, m.requests ++ [s.index]⟩) := by
  simp only [fields, Cache.recall, Dict.contains, hc, hp]
  rfl

lemma lookUp_of_wellKnown {known : String} (hw : wellKnown? column = some known) :
    s.lookUp column m = (.ok known, m) := by
  simp only [lookUp, hw]

lemma lookUp_of_trusted (ht : s.trusting = true) (hw : wellKnown? column = none) :
    s.lookUp column m = (.ok column, m) := by
  simp [lookUp, hw, ht]

lemma lookUp_of_checked (ht : s.trusting = false) (hw : wellKnown? column = none) :
    s.lookUp column m = ((s.fields m).1.bind (s.pathIn column), (s.fields m).2) := by
  simp [lookUp, hw, ht]

lemma lookUp_of_cached (hc : m.cache.get? s.index = some t) : (s.lookUp column m).2 = m := by
  cases hw : wellKnown? column with
  | some known => rw [lookUp_of_wellKnown hw]
  | none =>
    cases ht : s.trusting with
    | true => rw [lookUp_of_trusted ht hw]
    | false => rw [lookUp_of_checked ht hw, fields_of_cached hc]

end Source

namespace Lookup

variable {α : Type} {R : α → α → Prop} {s : Source} {m : Memory} {l l' : Lookup α}
  {t : FieldTable} {e : Failure}

def needsMapping : Lookup α → Bool
  | done _ => false
  | column name next =>
    match Source.wellKnown? name with
    | some known => (next (.ok known)).needsMapping
    | none => true

lemma run_of_cached (hc : m.cache.get? s.index = some t) : (l.run s m).2 = m := by
  induction l with
  | done r => rfl
  | column name next ih =>
    change ((next (s.lookUp name m).1).run s (s.lookUp name m).2).2 = m
    rw [Source.lookUp_of_cached hc, ih]

lemma run_of_needless (hn : l.needsMapping = false) : (l.run s m).2 = m := by
  induction l with
  | done r => rfl
  | column name next ih =>
    change ((next (s.lookUp name m).1).run s (s.lookUp name m).2).2 = m
    rw [needsMapping] at hn
    cases hw : Source.wellKnown? name with
    | none =>
      rw [hw] at hn
      cases hn
    | some known =>
      rw [hw] at hn
      rw [Source.lookUp_of_wellKnown hw]
      exact ih _ hn

lemma run_of_fetched (ht : s.trusting = false) (hn : l.needsMapping = true)
    (hc : m.cache.get? s.index = none) (hp : s.provider s.index = .ok t) :
    (l.run s m).2 = ⟨m.cache.insert s.index t, m.requests ++ [s.index]⟩ := by
  induction l with
  | done r => cases hn
  | column name next ih =>
    change ((next (s.lookUp name m).1).run s (s.lookUp name m).2).2 = _
    rw [needsMapping] at hn
    cases hw : Source.wellKnown? name with
    | none =>
      rw [Source.lookUp_of_checked ht hw, Source.fields_of_fetched hc hp]
      exact run_of_cached (Dict.get?_insert_self _ _ _)
    | some known =>
      rw [hw] at hn
      rw [Source.lookUp_of_wellKnown hw]
      exact ih _ hn

lemma Parallel.run_of_failed (hl : Parallel R l l') (ht : s.trusting = false)
    (hn : l.needsMapping = true) (hc : m.cache.get? s.index = none)
    (hp : s.provider s.index = .error e) :
    l.run s m = (.error e, ⟨m.cache, m.requests ++ [s.index]⟩) := by
  induction hl with
  | value _ => cases hn
  | fault _ => cases hn
  | @column name next next' hs _ ih =>
    change (next (s.lookUp name m).1).run s (s.lookUp name m).2 = _
    rw [needsMapping] at hn
    cases hw : Source.wellKnown? name with
    | none =>
      rw [Source.lookUp_of_checked ht hw, Source.fields_of_failed hc hp]
      change (next (.error e)).run s _ = _
      rw [hs]
      rfl
    | some known =>
      rw [hw] at hn
      rw [Source.lookUp_of_wellKnown hw]
      exact ih known known hn

end Lookup

end SearchCompiler
