import SearchCompiler.Proofs.Clause.Meaning
import SearchCompiler.Proofs.Json.Record
import SearchCompiler.Proofs.Search.Sections

/-! Which documents the query of a search matches: those that both its scored clauses and its
filters match, whatever shape the two queries have. -/

namespace SearchCompiler

variable {x : Context} {holds : Json → Prop}

lemma Fragment.Reads.toJson_filtered (hh : Fragment.Reads holds) (query filter : Query) :
    holds (Search.filtered query filter).toJson ↔ holds query.toJson ∧ holds filter.toJson := by
  rw [Search.filtered, Query.toJson, BoolQuery.toJson, hh.bool]
  cases query with
  | matchAll =>
    have hall : holds Query.matchAll.toJson := hh.matchAll
    simp [Query.isMatchAll, hall]
  | bare fragment => simp [Query.isMatchAll]
  | bool groups => simp [Query.isMatchAll]

lemma Clause.holds_of_compileList {cs : List Clause} {q : Query} (hh : Fragment.Reads holds)
    (h : x.result (compileList cs) = .ok q) : holds q.toJson ↔ SomeRunHolds x holds cs := by
  obtain ⟨-, ls, hls, rfl⟩ := (x.result_compileList cs q).mp h
  rw [hh.toJson_ofLiterals, someRunHolds_iff hls]

lemma Request.get?_query (r : Request) : r.toJson.get? "query" = some r.query.toJson := by
  rw [Request.toJson, Json.get?_ofMembers (by simp)]
  rfl

namespace Search

variable {s : Search} {catalog : Catalog} {r : Request}

lemma querySection_eq_ok {scored filters : List Clause} {q : Query} :
    x.result (querySection scored filters) = .ok q ↔
      ∃ query, x.result (Clause.compileList scored) = .ok query ∧
        (filters = [] ∧ query = q ∨ filters ≠ [] ∧
          ∃ filter, x.result (Clause.compileList filters) = .ok filter ∧
            filtered query filter = q) := by
  rw [querySection, Context.result_bind_eq_ok]
  refine exists_congr fun query => and_congr_right fun _ => ?_
  cases filters with
  | nil => simp
  | cons c cs =>
    simp only [List.isEmpty_cons, Bool.false_eq_true, if_false, Context.result_bind_eq_ok,
      Context.result_pure, Except.ok.injEq, reduceCtorEq, false_and, false_or, ne_eq,
      not_false_eq_true, true_and]

def within (s : Search) (t : Target) (provider : Provider) (m : Memory) : Context :=
  { t.context provider m with overrides := s.overrides }

lemma result_overriding (t : Target) (provider : Provider) (m : Memory) (s : Search) {α : Type}
    (c : Compile α) : (t.context provider m).result (c.overriding s.overrides) =
      (s.within t provider m).result c := by
  rw [Target.result_context]
  rfl

lemma result_compile {t : Target} {provider : Provider} {m : Memory}
    (h : (t.ask provider m (.request s)).1 = .ok (.request r)) :
    (s.within t provider m).result (querySection s.scored s.filters) = .ok r.query := by
  have hask : (t.context provider m).result (do return Answer.request (← s.compile t.catalog)) =
      .ok (.request r) := by
    rw [Target.result_context]
    exact h
  obtain ⟨r', hr', heq⟩ := (Context.result_bind_eq_ok _ _ _ _).mp hask
  obtain rfl : r' = r := by simpa using heq
  rw [compile, result_overriding] at hr'
  obtain ⟨query, hquery, hr'⟩ := (Context.result_bind_eq_ok _ _ _ _).mp hr'
  obtain ⟨postFilter, -, hr'⟩ := (Context.result_bind_eq_ok _ _ _ _).mp hr'
  obtain ⟨aggregations, -, hr'⟩ := (Context.result_bind_eq_ok _ _ _ _).mp hr'
  obtain ⟨sort, -, hr'⟩ := (Context.result_bind_eq_ok _ _ _ _).mp hr'
  rw [Context.result_read] at hr'
  obtain rfl := Except.ok.inj hr'
  exact hquery

structure Conjoins (x : Context) (holds : Json → Prop) (s : Search) (query : Json) : Prop where
  unfiltered : s.filters = [] → ∃ scored, x.result (Clause.compileList s.scored) = .ok scored ∧
    (holds query ↔ holds scored.toJson)
  filtered : s.filters ≠ [] → ∃ scored filter,
    x.result (Clause.compileList s.scored) = .ok scored ∧
    x.result (Clause.compileList s.filters) = .ok filter ∧
    (holds query ↔ holds scored.toJson ∧ holds filter.toJson)
  runs : holds query ↔
    Clause.SomeRunHolds x holds s.scored ∧ Clause.SomeRunHolds x holds s.filters

end Search

namespace Target

open Search (within Conjoins)

theorem ask_conjoins {t : Target} {provider : Provider} {m : Memory} {s : Search} {r : Request}
    (h : (t.ask provider m (.request s)).1 = .ok (.request r)) (hh : Fragment.Reads holds) :
    ∃ query, r.toJson.get? "query" = some query ∧
      Conjoins (s.within t provider m) holds s query := by
  obtain ⟨scored, hscored, hquery⟩ := Search.querySection_eq_ok.mp (Search.result_compile h)
  have hruns := Clause.holds_of_compileList hh hscored
  refine ⟨r.query.toJson, r.get?_query, ?_⟩
  rcases hquery with ⟨hnil, rfl⟩ | ⟨hne, filter, hfilter, hq⟩
  · refine ⟨fun _ => ⟨r.query, hscored, Iff.rfl⟩, fun hne => absurd hnil hne, ?_⟩
    have hall : Clause.SomeRunHolds (s.within t provider m) holds s.filters := .inl hnil
    rw [hruns, and_iff_left hall]
  · have hboth := hh.toJson_filtered scored filter
    rw [hq] at hboth
    refine ⟨fun hnil => absurd hnil hne, fun _ => ⟨scored, filter, hscored, hfilter, hboth⟩, ?_⟩
    rw [hboth, hruns, Clause.holds_of_compileList hh hfilter]

def rusty : Search where
  scored := [.ofCondition (.text .words "body" (.string "rust")),
    (Clause.ofCondition (.term "author" (.string "bob"))).alternative]
  filters := [.ofCondition (.term "status" (.string "published"))]
  overrides := .ofList [("author", "author.exact")]

def rustyQuery : Json :=
  Fragment.bool
    [Fragment.bool [] [] [Fragment.words "body" (.string "rust") [],
      Fragment.term "author.exact" (.string "bob") []] []]
    [] [] [Fragment.term "status" (.string "published") []]

theorem ask_conjoins_rusty :
    ∃ r, (posts.ask statuses {} (.request rusty)).1 = .ok (.request r) ∧
      Fragment.Reads (fun f => f.matched (fun _ => true) = true) ∧
      r.query.toJson = rustyQuery ∧ ∃ query, r.toJson.get? "query" = some query ∧
        Conjoins (rusty.within posts statuses {}) (fun f => f.matched (fun _ => true) = true)
          rusty query :=
  ⟨_, rfl, Json.reads_matched _, rfl, ask_conjoins rfl (Json.reads_matched _)⟩

end Target

end SearchCompiler
