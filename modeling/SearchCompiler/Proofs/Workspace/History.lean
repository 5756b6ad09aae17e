import SearchCompiler.Proofs.Dict
import SearchCompiler.Proofs.Lookup.Memory
import SearchCompiler.Workspace

/-! What has happened to the caches of a workspace, and that they hold what it says: the latest
fetch of each index through each cache that nothing has taken out again. -/

namespace SearchCompiler

inductive CacheEvent where
  | fetched (cache : Nat) (index : String) (fields : FieldTable)
  | invalidated (cache : Nat) (index : String)
  | cleared (cache : Nat)

namespace CacheEvent

def cache : CacheEvent → Nat
  | .fetched cache _ _ | .invalidated cache _ | .cleared cache => cache

def Removes (cache : Nat) (index : String) : CacheEvent → Prop
  | .fetched _ _ _ => False
  | .invalidated c i => c = cache ∧ i = index
  | .cleared c => c = cache

end CacheEvent

/-- The latest fetch of an index through a cache got `t`, and nothing has removed it since. -/
def Standing (log : List CacheEvent) (cache : Nat) (index : String) (t : FieldTable) : Prop :=
  ∃ before after, log = before ++ .fetched cache index t :: after ∧
    ∀ e ∈ after, ¬ e.Removes cache index ∧ ∀ t', e ≠ .fetched cache index t'

namespace Standing

variable {log : List CacheEvent} {e : CacheEvent} {cache : Nat} {index : String} {t : FieldTable}

lemma not_nil : ¬ Standing [] cache index t := by
  rintro ⟨before, after, h, -⟩
  simp at h

lemma snoc_iff : Standing (log ++ [e]) cache index t ↔ e = .fetched cache index t ∨
    (¬ e.Removes cache index ∧ ∀ t', e ≠ .fetched cache index t') ∧
      Standing log cache index t := by
  constructor
  · rintro ⟨before, after, h, hafter⟩
    rcases List.eq_nil_or_concat after with rfl | ⟨after, e', rfl⟩
    · exact .inl (List.append_inj_right' h rfl |> List.head_eq_of_cons_eq)
    · rw [List.concat_eq_append, ← List.cons_append, ← List.append_assoc] at h
      obtain ⟨hlog, he⟩ := List.append_inj' h rfl
      obtain rfl := List.head_eq_of_cons_eq he
      refine .inr ⟨hafter e (by simp), before, after, hlog, ?_⟩
      intro e' he'
      exact hafter e' (by simp [he'])
  · rintro (rfl | ⟨hkeeps, before, after, rfl, hafter⟩)
    · exact ⟨log, [], rfl, by simp⟩
    · refine ⟨before, after ++ [e], by simp, ?_⟩
      intro e' he'
      rcases List.mem_append.mp he' with he' | he'
      · exact hafter e' he'
      · obtain rfl := List.mem_singleton.mp he'
        exact hkeeps

lemma append (h : Standing log cache index t) {es : List CacheEvent}
    (hes : ∀ e ∈ es, ¬ e.Removes cache index ∧ ∀ t', e ≠ .fetched cache index t') :
    Standing (log ++ es) cache index t := by
  obtain ⟨before, after, rfl, hafter⟩ := h
  refine ⟨before, after ++ es, by simp, ?_⟩
  intro e he
  rcases List.mem_append.mp he with he | he
  · exact hafter e he
  · exact hes e he

lemma snoc_of_ne (he : e.cache ≠ cache) :
    Standing (log ++ [e]) cache index t ↔ Standing log cache index t := by
  rw [snoc_iff]
  cases e with
  | fetched c i t' =>
    have hc : c ≠ cache := he
    simp [CacheEvent.Removes, hc]
  | invalidated c i =>
    have hc : c ≠ cache := he
    simp [CacheEvent.Removes, hc]
  | cleared c =>
    have hc : c ≠ cache := he
    simp [CacheEvent.Removes, hc]

end Standing

namespace Workspace

def after (w : Workspace) (steps : List Step) : Workspace :=
  steps.foldl (fun w step => (w.step step).2) w

def fetches (w : Workspace) (cache : Nat) (requests : List String) : List CacheEvent :=
  requests.filterMap fun index => (w.indices.get? index).map (.fetched cache index)

def events (w : Workspace) (step : Step) : List CacheEvent :=
  match step with
  | .ask name _ | .dataType name _ =>
    match w.clients.get? name with
    | some c => w.fetches c.cache ((w.step step).2.requests.drop w.requests.length)
    | none => []
  | .invalidate name index =>
    (w.clients.get? name).toList.map fun c => .invalidated c.cache index
  | .clear name => (w.clients.get? name).toList.map fun c => .cleared c.cache
  | _ => []

def history (w : Workspace) : List Step → List CacheEvent
  | [] => []
  | step :: steps => w.events step ++ (w.step step).2.history steps

lemma history_append (w : Workspace) (steps steps' : List Step) :
    w.history (steps ++ steps') = w.history steps ++ (w.after steps).history steps' := by
  induction steps generalizing w with
  | nil => rfl
  | cons step steps ih =>
    rw [List.cons_append, history, history, ih, List.append_assoc]
    rfl

structure Faithful (w : Workspace) (log : List CacheEvent) : Prop where
  cached : ∀ cache index t, (w.cacheAt cache).get? index = some t ↔ Standing log cache index t
  owned : ∀ name c, w.clients.get? name = some c → c.cache < w.caches.length

lemma cacheAt_set (w : Workspace) {cache : Nat} (hcache : cache < w.caches.length) (new : Cache)
    (requests : List String) (other : Nat) :
    cacheAt { w with caches := w.caches.set cache new, requests } other =
      if other = cache then new else w.cacheAt other := by
  simp only [cacheAt, List.getElem?_set]
  by_cases hc : cache = other
  · subst other
    simp [hcache]
  · simp [hc, Ne.symm hc]

lemma cacheAt_modify (w : Workspace) {cache : Nat} (hcache : cache < w.caches.length)
    (f : Cache → Cache) (other : Nat) :
    cacheAt { w with caches := w.caches.modify cache f } other =
      if other = cache then f (w.cacheAt cache) else w.cacheAt other := by
  simp only [cacheAt, List.getElem?_modify]
  by_cases hc : cache = other
  · subst other
    simp [hcache]
  · simp [hc, Ne.symm hc]

lemma get?_eq_some_of_provider {w : Workspace} {index : String} {t : FieldTable}
    (h : w.provider index = .ok t) : w.indices.get? index = some t := by
  rw [provider, Provider.ofTable] at h
  split at h
  · rename_i ht
    exact ht.trans (congrArg some (Except.ok.inj h))
  · cases h

lemma get?_eq_none_of_provider {w : Workspace} {index : String} {e : Failure}
    (h : w.provider index = .error e) : w.indices.get? index = none := by
  rw [provider, Provider.ofTable] at h
  split at h
  · cases h
  · assumption

lemma fetches_cases (w : Workspace) {c : Client} {m : Memory}
    (hm : (c.target.source w.provider).Leaves ⟨w.cacheAt c.cache, w.requests⟩ m) :
    (m.cache = w.cacheAt c.cache ∧
      w.fetches c.cache (m.requests.drop w.requests.length) = []) ∨
    ∃ t, (w.cacheAt c.cache).get? c.target.index = none ∧
      m.cache = (w.cacheAt c.cache).insert c.target.index t ∧
      w.fetches c.cache (m.requests.drop w.requests.length) =
        [.fetched c.cache c.target.index t] := by
  cases hm with
  | kept =>
    rw [List.drop_length]
    exact .inl ⟨rfl, rfl⟩
  | @failed n e he =>
    rw [List.drop_left]
    refine .inl ⟨rfl, List.filterMap_eq_nil_iff.mpr ?_⟩
    intro index hi
    obtain rfl := List.eq_of_mem_replicate hi
    rw [Option.map_eq_none_iff]
    exact get?_eq_none_of_provider he
  | @fetched t hc ht =>
    rw [List.drop_left]
    refine .inr ⟨t, hc, rfl, ?_⟩
    have ht' : w.indices.get? c.target.index = some t := get?_eq_some_of_provider ht
    simp [fetches, Target.source, ht']

lemma get?_of_fetched_mem {w : Workspace} {step : Step} {cache : Nat} {index : String}
    {t : FieldTable} (h : .fetched cache index t ∈ w.events step) :
    (w.cacheAt cache).get? index = none := by
  have hclient {c : Client} {m : Memory}
      (hm : (c.target.source w.provider).Leaves ⟨w.cacheAt c.cache, w.requests⟩ m)
      (he : .fetched cache index t ∈
        w.fetches c.cache (m.requests.drop w.requests.length)) :
      (w.cacheAt cache).get? index = none := by
    rcases w.fetches_cases hm with ⟨-, hevents⟩ | ⟨t', hnone, -, hevents⟩
    · rw [hevents] at he
      cases he
    · rw [hevents] at he
      obtain ⟨rfl, rfl, rfl⟩ := CacheEvent.fetched.inj (List.mem_singleton.mp he)
      exact hnone
  cases step with
  | ask name q =>
    simp only [events, Workspace.step, withMemory] at h
    cases hc : w.clients.get? name with
    | none => simp [hc] at h
    | some c =>
      simp only [hc] at h
      exact hclient (Lookup.run_leaves _ _ _) h
  | dataType name path =>
    simp only [events, Workspace.step, withMemory] at h
    cases hc : w.clients.get? name with
    | none => simp [hc] at h
    | some c =>
      simp only [hc] at h
      exact hclient (Source.fields_leaves _ _) h
  | invalidate name i =>
    obtain ⟨c, -, he⟩ := List.mem_map.mp h
    cases he
  | clear name =>
    obtain ⟨c, -, he⟩ := List.mem_map.mp h
    cases he
  | _ => cases h

namespace Faithful

variable {w w' : Workspace} {log : List CacheEvent}

lemma opened (absence : String) : Faithful { absence } [] := by
  refine ⟨fun cache index t => ⟨fun h => ?_, fun h => (Standing.not_nil h).elim⟩, ?_⟩
  · cases h
  · intro name c h
    cases h

lemma frame (h : w.Faithful log) (hcaches : ∀ cache, w'.cacheAt cache = w.cacheAt cache)
    (howned : ∀ name c, w'.clients.get? name = some c → c.cache < w'.caches.length) :
    w'.Faithful log := by
  refine ⟨?_, howned⟩
  intro cache index t
  rw [hcaches]
  exact h.cached cache index t

lemma write (h : w.Faithful log) {e : CacheEvent} {new : Cache}
    (hclients : w'.clients = w.clients) (hlength : w'.caches.length = w.caches.length)
    (hcaches : ∀ cache, w'.cacheAt cache = if cache = e.cache then new else w.cacheAt cache)
    (hnew : ∀ index t, new.get? index = some t ↔ Standing (log ++ [e]) e.cache index t) :
    w'.Faithful (log ++ [e]) := by
  refine ⟨?_, ?_⟩
  · intro cache index t
    rw [hcaches]
    split
    · rename_i hc
      rw [hc]
      exact hnew index t
    · rename_i hc
      rw [Standing.snoc_of_ne (Ne.symm hc)]
      exact h.cached cache index t
  · rw [hclients, hlength]
    exact h.owned

lemma fetch (h : w.Faithful log) {cache : Nat} {index : String} {t : FieldTable}
    (hcache : cache < w.caches.length) (requests : List String) :
    Faithful { w with caches := w.caches.set cache ((w.cacheAt cache).insert index t), requests }
      (log ++ [.fetched cache index t]) := by
  refine h.write rfl List.length_set (w.cacheAt_set hcache _ requests) ?_
  intro i t'
  rw [Standing.snoc_iff]
  by_cases hi : i = index
  · subst i
    rw [Dict.get?_insert_self]
    simp [CacheEvent.cache, CacheEvent.Removes]
  · rw [Dict.get?_insert_of_ne _ _ hi, h.cached]
    simp [CacheEvent.cache, CacheEvent.Removes, Ne.symm hi]

lemma invalidate (h : w.Faithful log) {cache : Nat} (hcache : cache < w.caches.length)
    (index : String) :
    Faithful { w with caches := w.caches.modify cache fun c => c.erase index }
      (log ++ [.invalidated cache index]) := by
  refine h.write rfl (List.length_modify _ _ _) (w.cacheAt_modify hcache _) ?_
  intro i t
  rw [Standing.snoc_iff]
  by_cases hi : i = index
  · subst i
    rw [Dict.get?_erase_self]
    simp [CacheEvent.cache, CacheEvent.Removes]
  · rw [Dict.get?_erase_of_ne _ hi, h.cached]
    simp [CacheEvent.cache, CacheEvent.Removes, Ne.symm hi]

lemma clear (h : w.Faithful log) {cache : Nat} (hcache : cache < w.caches.length) :
    Faithful { w with caches := w.caches.modify cache fun _ => .empty }
      (log ++ [.cleared cache]) := by
  refine h.write rfl (List.length_modify _ _ _) (w.cacheAt_modify hcache _) ?_
  intro i t
  rw [Standing.snoc_iff]
  simp [CacheEvent.cache, CacheEvent.Removes, Dict.empty, Dict.get?, Entries.get?]

lemma remember (h : w.Faithful log) {c : Client} (hcache : c.cache < w.caches.length) {m : Memory}
    (hm : (c.target.source w.provider).Leaves ⟨w.cacheAt c.cache, w.requests⟩ m) :
    Faithful { w with caches := w.caches.set c.cache m.cache, requests := m.requests }
      (log ++ w.fetches c.cache (m.requests.drop w.requests.length)) := by
  rcases w.fetches_cases hm with ⟨hkept, hevents⟩ | ⟨t, -, hnew, hevents⟩
  · rw [hevents, hkept, List.append_nil]
    apply h.frame
    · intro cache
      rw [w.cacheAt_set hcache]
      split
      · rename_i hc
        rw [hc]
      · rfl
    · intro name c' hc'
      rw [List.length_set]
      exact h.owned name c' hc'
  · rw [hevents, hnew]
    exact h.fetch hcache _

lemma updateClient (h : w.Faithful log) (name : String) {f : Client → Client}
    (hf : ∀ c, w.clients.get? name = some c → (f c).cache < w.caches.length) :
    (w.updateClient name f).Faithful log := by
  rw [Workspace.updateClient]
  cases hc : w.clients.get? name with
  | none => exact h
  | some c =>
    apply h.frame
    · intro cache
      rfl
    · intro name' c' hc'
      by_cases hn : name' = name
      · subst name'
        obtain rfl := Option.some.inj ((Dict.get?_insert_self _ _ _).symm.trans hc')
        exact hf c hc
      · exact h.owned name' c' ((Dict.get?_insert_of_ne _ _ hn).symm.trans hc')

lemma updateTarget (h : w.Faithful log) (name : String) (f : Target → Target) :
    (w.updateTarget name f).Faithful log :=
  h.updateClient name fun c hc => h.owned name c hc

lemma openClient (h : w.Faithful log) (name index : String) (settings : Settings) :
    (w.step (.openClient name index settings)).2.Faithful log := by
  apply h.frame
  · intro cache
    simp only [step, cacheAt, List.getElem?_append]
    split
    · rfl
    · rename_i hc
      rw [List.getElem?_eq_none (Nat.le_of_not_lt hc)]
      cases hn : cache - w.caches.length with
      | zero => rfl
      | succ n => rfl
  · intro name' c' hc'
    simp only [step, List.length_append, List.length_singleton]
    by_cases hn : name' = name
    · subst name'
      obtain rfl := Option.some.inj ((Dict.get?_insert_self _ _ _).symm.trans hc')
      exact Nat.lt_succ_self _
    · have hc := h.owned name' c' ((Dict.get?_insert_of_ne _ _ hn).symm.trans hc')
      omega

end Faithful

theorem step_faithful {w : Workspace} {log : List CacheEvent} (h : w.Faithful log) (step : Step) :
    (w.step step).2.Faithful (log ++ w.events step) := by
  have hnil : w.Faithful (log ++ []) := (List.append_nil log).symm ▸ h
  cases step with
  | setIndex index fields => exact hnil.frame (fun _ => rfl) h.owned
  | dropIndex index => exact hnil.frame (fun _ => rfl) h.owned
  | openClient name index settings => exact hnil.openClient name index settings
  | shareCache name other =>
    rw [Workspace.step]
    cases ho : w.clients.get? other with
    | none => exact hnil
    | some o => exact hnil.updateClient name fun _ _ => h.owned other o ho
  | setSettings name settings => exact hnil.updateTarget name fun t => { t with settings }
  | setCatalog name choice =>
    exact hnil.updateTarget name fun t => { t with catalog := w.catalogOf choice }
  | addBucket name type method =>
    exact hnil.updateTarget name fun t => { t with catalog := t.catalog.addBucket type method }
  | invalidate name index =>
    rw [events, Workspace.step, updateCache]
    cases hc : w.clients.get? name with
    | none => exact hnil
    | some c => exact h.invalidate (h.owned name c hc) index
  | clear name =>
    rw [events, Workspace.step, updateCache]
    cases hc : w.clients.get? name with
    | none => exact hnil
    | some c => exact h.clear (h.owned name c hc)
  | ask name q =>
    simp only [events, Workspace.step, withMemory]
    cases hc : w.clients.get? name with
    | none => exact hnil
    | some c => exact h.remember (h.owned name c hc) (Lookup.run_leaves _ _ _)
  | dataType name path =>
    simp only [events, Workspace.step, withMemory]
    cases hc : w.clients.get? name with
    | none => exact hnil
    | some c => exact h.remember (h.owned name c hc) (Source.fields_leaves _ _)

lemma Faithful.keeps {w : Workspace} {log : List CacheEvent} (h : w.Faithful log) {cache : Nat}
    {index : String} {t : FieldTable} (hs : Standing log cache index t) {step : Step}
    (hstep : ∀ e ∈ w.events step, ¬ e.Removes cache index) :
    Standing (log ++ w.events step) cache index t := by
  apply hs.append
  intro e he
  refine ⟨hstep e he, ?_⟩
  rintro t' rfl
  have hsome := (h.cached cache index t).mpr hs
  cases hsome.symm.trans (get?_of_fetched_mem he)

theorem history_faithful {w : Workspace} {log : List CacheEvent} (h : w.Faithful log)
    (steps : List Step) : (w.after steps).Faithful (log ++ w.history steps) := by
  induction steps generalizing w log with
  | nil => exact (List.append_nil log).symm ▸ h
  | cons step steps ih =>
    rw [history, ← List.append_assoc]
    exact ih (step_faithful h step)

lemma Faithful.keeps_history {w : Workspace} {log : List CacheEvent} (h : w.Faithful log)
    {cache : Nat} {index : String} {t : FieldTable} (hs : Standing log cache index t)
    {steps : List Step} (hsteps : ∀ e ∈ w.history steps, ¬ e.Removes cache index) :
    Standing (log ++ w.history steps) cache index t := by
  induction steps generalizing w log with
  | nil => exact (List.append_nil log).symm ▸ hs
  | cons step steps ih =>
    rw [history] at hsteps ⊢
    obtain ⟨hstep, hsteps⟩ := List.forall_mem_append.mp hsteps
    rw [← List.append_assoc]
    exact ih (step_faithful h step) (h.keeps hs hstep) hsteps

end Workspace

end SearchCompiler
