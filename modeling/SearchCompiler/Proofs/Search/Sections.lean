import SearchCompiler.Proofs.Aggregation.Levels
import SearchCompiler.Target

/-! A search without overrides is answered as its sections are, each asked for on its own. -/

namespace SearchCompiler

variable {α β : Type}

abbrev Asking := ExceptT Failure (StateM Memory)

namespace Asking

variable {c : Asking α} {m : Memory}

lemma bind_apply (c : Asking α) (f : α → Asking β) (m : Memory) :
    (c >>= f) m = match c m with
      | (.ok a, m') => f a m'
      | (.error e, m') => (.error e, m') := by
  change StateT.bind c (ExceptT.bindCont f) m = _
  rw [StateT.bind]
  rcases c m with ⟨_ | _, m'⟩
  · rfl
  · rfl

lemma bind_congr {f g : α → Asking β} (h : ∀ a m', c m = (.ok a, m') → f a m' = g a m') :
    (c >>= f) m = (c >>= g) m := by
  rw [bind_apply, bind_apply]
  cases hc : c m with
  | mk r m' =>
    cases r with
    | ok a => exact h a m' hc
    | error e => rfl

lemma bind_eq_ok {f : α → Asking β} {b : β} {m' : Memory} :
    (c >>= f) m = (.ok b, m') ↔ ∃ a m₁, c m = (.ok a, m₁) ∧ f a m₁ = (.ok b, m') := by
  rw [bind_apply]
  rcases c m with ⟨_ | a, m₁⟩
  · constructor
    · rintro ⟨⟩
    · rintro ⟨a, m₂, ⟨⟩, -⟩
  · constructor
    · intro h
      exact ⟨a, m₁, rfl, h⟩
    · rintro ⟨a', m₂, ⟨⟩, h⟩
      exact h

end Asking

lemma Lookup.overriding_empty (l : Lookup α) : l.overriding .empty = l := by
  induction l with
  | done r => rfl
  | column name next ih =>
    have hnone : Dict.empty.get? name = (none : Option String) := rfl
    rw [overriding, hnone]
    cases Source.wellKnown? name <;> exact congrArg (column name) (funext ih)

namespace Target

variable (t : Target) (provider : Provider)

def running (c : Compile α) : Asking α := fun m => (c t.settings).run (t.source provider) m

@[simp] lemma running_pure (a : α) : t.running provider (pure a) = pure a := rfl

@[simp] lemma running_bind (c : Compile α) (f : α → Compile β) :
    t.running provider (c >>= f) =
      t.running provider c >>= fun a => t.running provider (f a) := by
  funext m
  rw [Asking.bind_apply]
  exact Lookup.run_bind (t.source provider) (c t.settings) (fun a => f a t.settings) m

@[simp] lemma running_read :
    t.running provider (MonadReader.read : Compile Settings) = pure t.settings := rfl

lemma running_overriding_empty (c : Compile α) :
    t.running provider (c.overriding .empty) = t.running provider c := by
  funext m
  rw [running, Compile.overriding, Lookup.overriding_empty]
  rfl

def context (m : Memory) : Context where
  source := t.source provider
  memory := m
  settings := t.settings

lemma result_context (m : Memory) (c : Compile α) :
    (t.context provider m).result c = (t.running provider c m).1 := by
  rw [← running_overriding_empty]
  rfl

def put (part : Answer → Option α) (q : Question) : Asking α := do
  let answer : Answer ← fun m => t.ask provider m q
  match part answer with
  | some a => return a
  | none => throw .misshapen

lemma put_eq_running {part : Answer → Option α} {wrap : α → Answer} {q : Question}
    {c : Compile α} (hq : q.compile t.catalog = do return wrap (← c))
    (hpart : ∀ a, part (wrap a) = some a) : t.put provider part q = t.running provider c := by
  have hask : (fun m => t.ask provider m q) = t.running provider (do return wrap (← c)) := by
    rw [← hq]
    rfl
  rw [put, hask, running_bind, bind_assoc]
  simp only [running_pure, pure_bind, hpart, bind_pure]

end Target

def Answer.query? : Answer → Option Query
  | .query q => some q
  | _ => none

def Answer.members? : Answer → Option Options
  | .members ms => some ms
  | _ => none

def Answer.list? : Answer → Option (List Json)
  | .list entries => some entries
  | _ => none

structure Sections where
  query : Query
  filter : Option Query
  postFilter : Option Query
  aggregations : Options
  levels : Options
  sort : List Json

namespace Target

variable (t : Target) (provider : Provider)

def putIfAny (clauses : List Clause) : Asking (Option Query) :=
  if clauses.isEmpty then return none
  else return some (← t.put provider Answer.query? (.query clauses))

def putLevels : Option Grouping → Asking Options
  | none => return []
  | some g => t.put provider Answer.members? (.grouping g)

def keepApart (aggregations levels : Options) : Asking Unit :=
  match levels.find? fun l => Entries.hasKey l.1 aggregations with
  | some l => throw (.descriptor (.groupingCollision l.1))
  | none => return ()

def sections (s : Search) : Asking Sections := do
  let query ← t.put provider Answer.query? (.query s.scored)
  let filter ← t.putIfAny provider s.filters
  let postFilter ← t.putIfAny provider s.postFilters
  let aggregations ← t.put provider Answer.members? (.aggregations s.aggregations)
  let levels ← t.putLevels provider s.grouping
  keepApart aggregations levels
  let sort ← t.put provider Answer.list? (.sort s.sortKeys s.sortPatches)
  return { query, filter, postFilter, aggregations, levels, sort }

end Target

def Sections.joined (p : Sections) : Query :=
  match p.filter with
  | none => p.query
  | some filter => .bool {
      must := match p.query with
        | .matchAll => []
        | query => [query.toJson]
      filter := [filter.toJson] }

def Sections.request (p : Sections) (settings : Settings) (s : Search) : Request where
  query := p.joined
  postFilter := p.postFilter
  aggregations := Entries.insertAll p.levels p.aggregations
  sort := p.sort
  highlight := s.highlight.map fun h => h.compile settings
  start := if s.grouping.isSome then none else s.offset
  size := if s.grouping.isSome then some 0 else s.limit
  source := s.source

lemma Sections.request_eq (p : Sections) (settings : Settings) (s : Search) :
    p.request settings s = {
      query := match p.filter with
        | none => p.query
        | some filter => Search.filtered p.query filter
      postFilter := p.postFilter
      aggregations := Entries.insertAll p.levels p.aggregations
      sort := p.sort
      highlight := s.highlight.map fun h => h.compile settings
      start := s.page.1
      size := s.page.2
      source := s.source } := by
  have hquery : p.joined = match p.filter with
      | none => p.query
      | some filter => Search.filtered p.query filter := by
    rw [joined]
    cases p.filter with
    | none => rfl
    | some filter => cases p.query <;> rfl
  rw [request, hquery, Search.page]
  cases s.grouping <;> rfl

namespace Target

variable (t : Target) (provider : Provider)

lemma put_query (clauses : List Clause) :
    t.put provider Answer.query? (.query clauses) =
      t.running provider (Clause.compileList clauses) :=
  t.put_eq_running provider rfl fun _ => rfl

lemma put_aggregations (as : List Aggregation) :
    t.put provider Answer.members? (.aggregations as) =
      t.running provider (Aggregation.compileList t.catalog as) :=
  t.put_eq_running provider rfl fun _ => rfl

lemma put_grouping (g : Grouping) :
    t.put provider Answer.members? (.grouping g) = t.running provider (g.compile t.catalog) :=
  t.put_eq_running provider rfl fun _ => rfl

lemma put_sort (keys : List SortKey) (patches : List SortPatch) :
    t.put provider Answer.list? (.sort keys patches) =
      t.running provider (sortSection keys patches) :=
  t.put_eq_running provider rfl fun _ => rfl

lemma putIfAny_eq (clauses : List Clause) :
    t.putIfAny provider clauses = t.running provider (Search.postFilterSection clauses) := by
  rw [putIfAny, Search.postFilterSection, put_query]
  split
  · rfl
  · rw [running_bind]
    rfl

lemma running_querySection (scored filters : List Clause) :
    t.running provider (Search.querySection scored filters) = do
      let query ← t.running provider (Clause.compileList scored)
      let filter ← t.putIfAny provider filters
      return match filter with
        | none => query
        | some filter => Search.filtered query filter := by
  rw [putIfAny_eq, Search.querySection, Search.postFilterSection, running_bind]
  split
  · rfl
  · simp only [running_bind, running_pure, bind_assoc, pure_bind]

lemma running_aggregationSection (as : List Aggregation) (grouping : Option Grouping) :
    t.running provider (Search.aggregationSection t.catalog as grouping) = (do
      let aggregations ← t.running provider (Aggregation.compileList t.catalog as)
      let levels ← t.putLevels provider grouping
      t.running provider (Search.addLevels aggregations levels)) := by
  rw [Search.aggregationSection, running_bind]
  cases grouping with
  | none => rfl
  | some g =>
    simp only [putLevels, put_grouping, running_bind]

lemma levels_of_putLevels {grouping : Option Grouping} {m m' : Memory} {levels : Options}
    (h : t.putLevels provider grouping m = (.ok levels, m')) :
    levels = [] ∨ ∃ field level, levels = [(field, level)] := by
  cases grouping with
  | none =>
    cases h
    exact .inl rfl
  | some g =>
    rw [putLevels, put_grouping] at h
    have hx : (t.context provider m).result (g.compile t.catalog) = .ok levels := by
      rw [result_context, h]
    obtain ⟨hne, -, metrics, -, hlevels⟩ := Grouping.compile_eq_ok.mp hx
    obtain ⟨field, fields, hfields⟩ := List.exists_cons_of_ne_nil hne
    rw [hfields] at hlevels
    obtain ⟨inner, column, -, -, rfl⟩ := Grouping.levels_cons_eq_ok.mp hlevels
    exact .inr ⟨field, _, rfl⟩

lemma not_mem_of_keepApart {aggregations levels : Options} {m m' : Memory}
    (h : keepApart aggregations levels m = (.ok (), m')) :
    ∀ l ∈ levels, l.1 ∉ aggregations.map Prod.fst := by
  intro l hl hmem
  rw [keepApart] at h
  cases hfind : levels.find? fun l => Entries.hasKey l.1 aggregations with
  | some l =>
    rw [hfind] at h
    cases h
  | none => exact List.find?_eq_none.mp hfind l hl (Entries.hasKey_iff.mpr hmem)

lemma running_addLevels (aggregations : Options) {levels : Options}
    (h : levels = [] ∨ ∃ field level, levels = [(field, level)]) :
    t.running provider (Search.addLevels aggregations levels) =
      keepApart aggregations levels >>= fun _ =>
        pure (Entries.insertAll levels aggregations) := by
  rcases h with rfl | ⟨field, level, rfl⟩
  · rfl
  · rw [Search.addLevels, keepApart, List.find?_cons]
    cases Entries.hasKey field aggregations with
    | true => rfl
    | false => rfl

lemma running_compile {s : Search} (hs : s.overrides = .empty) (m : Memory) :
    t.running provider (s.compile t.catalog) m =
      (do return (← t.sections provider s).request t.settings s) m := by
  rw [Search.compile, hs, running_overriding_empty, sections]
  simp only [running_bind, running_querySection, running_aggregationSection, running_read,
    running_pure, ← putIfAny_eq, put_query, put_aggregations, put_sort, bind_assoc, pure_bind]
  refine Asking.bind_congr fun query m₁ _ => ?_
  refine Asking.bind_congr fun filter m₂ _ => ?_
  refine Asking.bind_congr fun postFilter m₃ _ => ?_
  refine Asking.bind_congr fun aggregations m₄ _ => ?_
  refine Asking.bind_congr fun levels m₅ hlevels => ?_
  rw [running_addLevels t provider aggregations (t.levels_of_putLevels provider hlevels)]
  simp only [bind_assoc, pure_bind, Sections.request_eq]

lemma ask_request {s : Search} (hs : s.overrides = .empty) (m : Memory) :
    t.ask provider m (.request s) =
      (do return .request ((← t.sections provider s).request t.settings s) : Asking Answer) m := by
  have hask : t.ask provider m (.request s) =
      t.running provider (do return Answer.request (← s.compile t.catalog)) m := rfl
  rw [hask, running_bind, Asking.bind_apply, running_compile t provider hs, ← Asking.bind_apply]
  simp only [running_pure, bind_assoc, pure_bind]

lemma nodup_of_sections {s : Search} {m m' : Memory} {p : Sections}
    (h : t.sections provider s m = (.ok p, m')) :
    Entries.Ascending p.aggregations ∧
      (p.levels.map Prod.fst ++ p.aggregations.map Prod.fst).Nodup := by
  rw [sections] at h
  obtain ⟨query, m₁, -, h⟩ := Asking.bind_eq_ok.mp h
  obtain ⟨filter, m₂, -, h⟩ := Asking.bind_eq_ok.mp h
  obtain ⟨postFilter, m₃, -, h⟩ := Asking.bind_eq_ok.mp h
  obtain ⟨aggregations, m₄, haggregations, h⟩ := Asking.bind_eq_ok.mp h
  obtain ⟨levels, m₅, hlevels, h⟩ := Asking.bind_eq_ok.mp h
  obtain ⟨⟨⟩, m₆, hapart, h⟩ := Asking.bind_eq_ok.mp h
  obtain ⟨sort, m₇, -, h⟩ := Asking.bind_eq_ok.mp h
  cases h
  have hasc : Entries.Ascending aggregations := by
    rw [put_aggregations] at haggregations
    have hx : (t.context provider m₃).result (Aggregation.compileList t.catalog s.aggregations) =
        .ok aggregations := by
      rw [result_context, haggregations]
    exact Aggregation.ascending_compileList hx
  have hnew := not_mem_of_keepApart hapart
  refine ⟨hasc, ?_⟩
  rcases t.levels_of_putLevels provider hlevels with rfl | ⟨field, level, rfl⟩
  · exact Entries.nodup_keys hasc
  · have hfield : field ∉ aggregations.map Prod.fst := hnew _ (List.mem_singleton.mpr rfl)
    exact List.nodup_cons.mpr ⟨hfield, Entries.nodup_keys hasc⟩

/-- A search is as its sections are: it leaves the same memory, fails as they do, and else is put
together from what they come to, the levels beside the aggregations. -/
structure Agrees (m : Memory) (s : Search) : Prop where
  memory : (t.ask provider m (.request s)).2 = (t.sections provider s m).2
  failure : ∀ e, (t.ask provider m (.request s)).1 = .error e ↔
    (t.sections provider s m).1 = .error e
  success : ∀ p, (t.sections provider s m).1 = .ok p →
    (t.ask provider m (.request s)).1 = .ok (.request (p.request t.settings s))
  union : ∀ p, (t.sections provider s m).1 = .ok p →
    (p.request t.settings s).aggregations.Perm (p.aggregations ++ p.levels) ∧
      ((p.request t.settings s).aggregations.map Prod.fst).Nodup

theorem agrees {s : Search} (hs : s.overrides = .empty) (m : Memory) : t.Agrees provider m s := by
  have hask := t.ask_request provider hs m
  rw [Asking.bind_apply] at hask
  cases hrun : t.sections provider s m with
  | mk r m' =>
    rw [hrun] at hask
    cases r with
    | error e =>
      have hnone {p : Sections} : (t.sections provider s m).1 ≠ .ok p := by
        rw [hrun]
        rintro ⟨⟩
      refine ⟨?_, ?_, ?_, ?_⟩
      · rw [hask, hrun]
      · intro e'
        rw [hask, hrun, Except.error.injEq, Except.error.injEq]
      · intro p hp
        exact (hnone hp).elim
      · intro p hp
        exact (hnone hp).elim
    | ok p =>
      obtain ⟨hasc, hnodup⟩ := t.nodup_of_sections provider hrun
      have honly {q : Sections} (hq : (t.sections provider s m).1 = .ok q) : p = q := by
        rw [hrun] at hq
        exact Except.ok.inj hq
      refine ⟨?_, ?_, ?_, ?_⟩
      · rw [hask, hrun]
        rfl
      · intro e
        rw [hask, hrun]
        constructor
        · rintro ⟨⟩
        · rintro ⟨⟩
      · intro q hq
        obtain rfl := honly hq
        rw [hask]
        rfl
      · intro q hq
        obtain rfl := honly hq
        refine ⟨?_, Entries.nodup_keys (Entries.ascending_insertAll p.levels hasc)⟩
        exact (Entries.perm_insertAll hnodup).trans List.perm_append_comm

def posts : Target := { index := "posts" }

def statuses : Provider :=
  .ofTable "gone" (.ofList [("posts", .ofPairs [("status", "keyword"), ("views", "long")])])

def published : Search where
  scored := [.ofCondition (.text .words "body" (.string "rust"))]
  filters := [.ofCondition (.term "status" (.string "published"))]
  aggregations := [.ofField "total" "sum" "views"]
  grouping := some { fields := ["status"] }

theorem agrees_published :
    published.overrides = .empty ∧
    (∃ p, (posts.sections statuses published {}).1 = .ok p ∧ p.filter.isSome = true ∧
      p.aggregations.map Prod.fst = ["total"] ∧ p.levels.map Prod.fst = ["status"]) ∧
    posts.Agrees statuses {} published :=
  ⟨rfl, ⟨_, rfl, rfl, rfl, rfl⟩, posts.agrees statuses rfl {}⟩

end Target

end SearchCompiler
