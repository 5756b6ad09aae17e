import SearchCompiler.Proofs.Workspace.History

/-! What the clients of a workspace read is a snapshot: the mapping as it was when it was last
fetched through their cache, however the index has changed since. -/

namespace SearchCompiler

structure Use where
  cache : Nat
  index : String
  fields : FieldTable

namespace Workspace

def memoryOf (w : Workspace) (c : Client) : Memory := ⟨w.cacheAt c.cache, w.requests⟩

def uses (w : Workspace) (step : Step) : List Use :=
  match step with
  | .ask name q =>
    match w.clients.get? name with
    | some c =>
      ((q.compile c.target.catalog c.target.settings).uses (c.target.source w.provider)
        (w.memoryOf c)).map (Use.mk c.cache c.target.index)
    | none => []
  | .dataType name _ =>
    match w.clients.get? name with
    | some c =>
      ((c.target.source w.provider).fields? (w.memoryOf c)).toList.map
        (Use.mk c.cache c.target.index)
    | none => []
  | _ => []

def Recalls (w : Workspace) (log : List CacheEvent) (cache : Nat) (index : String)
    (mapping : Except Failure FieldTable) : Prop :=
  (∃ t, Standing log cache index t ∧ mapping = .ok t) ∨
    ((∀ t, ¬ Standing log cache index t) ∧ mapping = w.provider index)

structure Snapshots (w : Workspace) (steps : List Step) : Prop where
  standing : ∀ step, ∀ u ∈ (w.after steps).uses step, ∀ t,
    Standing (w.history steps) u.cache u.index t → u.fields = t
  current : ∀ step, ∀ u ∈ (w.after steps).uses step,
    (∀ t, ¬ Standing (w.history steps) u.cache u.index t) →
      (w.after steps).indices.get? u.index = some u.fields
  recorded : ∀ step, ∀ u ∈ (w.after steps).uses step,
    Standing (w.history (steps ++ [step])) u.cache u.index u.fields
  stable : ∀ step later last, ∀ u ∈ (w.after steps).uses step,
    ∀ u' ∈ (w.after (steps ++ [step] ++ later)).uses last,
      u'.cache = u.cache → u'.index = u.index →
      (∀ e ∈ (w.after (steps ++ [step])).history later, ¬ e.Removes u.cache u.index) →
        u'.fields = u.fields
  asked : ∀ name q c, (w.after steps).clients.get? name = some c →
    ∃ mapping, (w.after steps).Recalls (w.history steps) c.cache c.target.index mapping ∧
      ((w.after steps).step (.ask name q)).1 =
        ((q.compile c.target.catalog c.target.settings).eval
          ((c.target.source (w.after steps).provider).reply mapping)).map some
  typed : ∀ name path c, (w.after steps).clients.get? name = some c →
    ∃ mapping, (w.after steps).Recalls (w.history steps) c.cache c.target.index mapping ∧
      ((w.after steps).step (.dataType name path)).1 =
        mapping.map fun fields => some (.dataType (fields.get? path))

lemma mem_uses {w : Workspace} {step : Step} {u : Use} (h : u ∈ w.uses step) :
    ∃ name c, w.clients.get? name = some c ∧ u.cache = c.cache ∧ u.index = c.target.index ∧
      (c.target.source w.provider).mapping (w.memoryOf c) = .ok u.fields ∧
      ∃ m : Memory, m.cache.get? u.index = some u.fields ∧
        (w.step step).2 =
          { w with caches := w.caches.set c.cache m.cache, requests := m.requests } := by
  cases step with
  | ask name q =>
    rw [uses] at h
    cases hc : w.clients.get? name with
    | none =>
      rw [hc] at h
      cases h
    | some c =>
      rw [hc] at h
      obtain ⟨t, ht, rfl⟩ := List.mem_map.mp h
      obtain ⟨hmapping, hkept⟩ := Lookup.mem_uses ht
      refine ⟨name, c, hc, rfl, rfl, hmapping, _, hkept, ?_⟩
      rw [Workspace.step, withMemory, hc]
      rfl
  | dataType name path =>
    rw [uses] at h
    cases hc : w.clients.get? name with
    | none =>
      rw [hc] at h
      cases h
    | some c =>
      rw [hc] at h
      obtain ⟨t, ht, rfl⟩ := List.mem_map.mp h
      have hfields := Source.fields?_eq_some (Option.mem_toList.mp ht)
      have hkept := Source.get?_fields hfields
      rw [Source.fields_fst] at hfields
      refine ⟨name, c, hc, rfl, rfl, hfields, _, hkept, ?_⟩
      rw [Workspace.step, withMemory, hc]
      rfl
  | _ => cases h

lemma Faithful.recalls {w : Workspace} {log : List CacheEvent} (h : w.Faithful log) (c : Client) :
    w.Recalls log c.cache c.target.index
      ((c.target.source w.provider).mapping (w.memoryOf c)) := by
  rw [Source.mapping]
  obtain hc | ⟨t, hc⟩ := Option.eq_none_or_eq_some ((w.cacheAt c.cache).get? c.target.index)
  · refine .inr ⟨?_, ?_⟩
    · intro t ht
      cases hc.symm.trans ((h.cached _ _ _).mpr ht)
    · simp only [Target.source, memoryOf, hc]
  · refine .inl ⟨t, (h.cached _ _ _).mp hc, ?_⟩
    simp only [Target.source, memoryOf, hc]

lemma Faithful.recalls_use {w : Workspace} {log : List CacheEvent} (h : w.Faithful log)
    {step : Step} {u : Use} (hu : u ∈ w.uses step) :
    w.Recalls log u.cache u.index (.ok u.fields) := by
  obtain ⟨name, c, -, hcache, hindex, hmapping, -⟩ := mem_uses hu
  rw [hcache, hindex, ← hmapping]
  exact h.recalls c

/-- Two mappings of one index in one cache would be told apart by a look-up. -/
lemma Faithful.standing_unique {w : Workspace} {log : List CacheEvent} (h : w.Faithful log)
    {cache : Nat} {index : String} {t t' : FieldTable} (ht : Standing log cache index t)
    (ht' : Standing log cache index t') : t = t' := by
  have hsome := (h.cached cache index t).mpr ht
  exact Option.some.inj (hsome.symm.trans ((h.cached cache index t').mpr ht'))

lemma Faithful.eq_of_standing {w : Workspace} {log : List CacheEvent} (h : w.Faithful log)
    {step : Step} {u : Use} (hu : u ∈ w.uses step) {t : FieldTable}
    (ht : Standing log u.cache u.index t) : u.fields = t := by
  rcases h.recalls_use hu with ⟨t', ht', hfields⟩ | ⟨hnone, -⟩
  · exact (Except.ok.inj hfields).trans (h.standing_unique ht' ht)
  · exact absurd ht (hnone t)

lemma Faithful.standing_after {w : Workspace} {log : List CacheEvent} (h : w.Faithful log)
    {step : Step} {u : Use} (hu : u ∈ w.uses step) :
    Standing (log ++ w.events step) u.cache u.index u.fields := by
  obtain ⟨name, c, hc, hcache, -, -, m, hm, hstep⟩ := mem_uses hu
  rw [← (step_faithful h step).cached, hstep, w.cacheAt_set (h.owned name c hc), if_pos hcache]
  exact hm

lemma step_ask {w : Workspace} {name : String} {c : Client} (hc : w.clients.get? name = some c)
    (q : Question) :
    (w.step (.ask name q)).1 = ((q.compile c.target.catalog c.target.settings).eval
      ((c.target.source w.provider).reply
        ((c.target.source w.provider).mapping (w.memoryOf c)))).map some := by
  rw [Workspace.step, withMemory, hc, ← Lookup.run_fst]
  rfl

lemma step_dataType {w : Workspace} {name : String} {c : Client}
    (hc : w.clients.get? name = some c) (path : String) :
    (w.step (.dataType name path)).1 =
      ((c.target.source w.provider).mapping (w.memoryOf c)).map fun fields =>
        some (.dataType (fields.get? path)) := by
  have hmap (r : Except Failure FieldTable) :
      ((r.map fun fields => fields.get? path).map Answer.dataType).map some =
        r.map fun fields => some (.dataType (fields.get? path)) := by
    cases r <;> rfl
  rw [Workspace.step, withMemory, hc, ← Source.fields_fst]
  exact hmap _

theorem snapshots (absence : String) (steps : List Step) : Snapshots { absence } steps := by
  have h (run : List Step) :
      Faithful (after { absence } run) (history { absence } run) :=
    history_faithful (.opened absence) run
  have hrecorded (step : Step) (u : Use) (hu : u ∈ (after { absence } steps).uses step) :
      Standing (history { absence } (steps ++ [step])) u.cache u.index u.fields := by
    rw [history_append, history, history, List.append_nil]
    exact (h steps).standing_after hu
  refine ⟨?_, ?_, hrecorded, ?_, ?_, ?_⟩
  · intro step u hu t ht
    exact (h steps).eq_of_standing hu ht
  · intro step u hu hnone
    rcases (h steps).recalls_use hu with ⟨t, ht, -⟩ | ⟨-, hprovider⟩
    · exact absurd ht (hnone t)
    · exact get?_eq_some_of_provider hprovider.symm
  · intro step later last u hu u' hu' hcache hindex hlater
    have hstands := (h (steps ++ [step])).keeps_history (hrecorded step u hu) hlater
    rw [← history_append, ← hcache, ← hindex] at hstands
    exact (h _).eq_of_standing hu' hstands
  · intro name q c hc
    refine ⟨_, (h steps).recalls c, ?_⟩
    exact step_ask hc q
  · intro name path c hc
    refine ⟨_, (h steps).recalls c, ?_⟩
    exact step_dataType hc path

def sharing : List Step := [
  .setIndex "people" (.ofPairs [("name", "keyword")]), .openClient "a" "people" {},
  .openClient "b" "people" {}, .shareCache "b" "a", .ask "a" (.field "name"),
  .setIndex "people" (.ofPairs [("age", "long")])]

example : (after {} sharing).uses (.ask "b" (.field "name")) =
    [⟨0, "people", .ofPairs [("name", "keyword")]⟩] := rfl

example : (after {} (sharing ++ [.invalidate "b" "people"])).uses (.dataType "a" "age") =
    [⟨0, "people", .ofPairs [("age", "long")]⟩] := rfl

end Workspace

end SearchCompiler
