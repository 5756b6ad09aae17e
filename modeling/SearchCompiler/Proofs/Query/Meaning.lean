import Mathlib.Logic.Basic
import SearchCompiler.Proofs.Query.Runs

/-! Which documents a query matches. A predicate on fragments that reads boolean queries as the
engine does holds of the query of a list of literals when all literals of one of its runs hold. -/

namespace SearchCompiler

/-- The predicate reads the queries that are made of other queries as the engine does. -/
structure Fragment.Reads (holds : Json → Prop) : Prop where
  matchAll : holds (.object [("match_all", .object [])])
  bool : ∀ must mustNot should filter, holds (Fragment.bool must mustNot should filter) ↔
    (∀ f ∈ must, holds f) ∧ (∀ f ∈ filter, holds f) ∧ (∀ f ∈ mustNot, ¬ holds f) ∧
      (must = [] → filter = [] → should ≠ [] → ∃ f ∈ should, holds f)

def Literal.Holds (holds : Json → Prop) (l : Literal) : Prop :=
  Xor (holds l.fragment) (l.negated = true)

lemma Literal.holds_negated {holds : Json → Prop} {l : Literal} (hn : l.negated = true) :
    l.Holds holds ↔ ¬ holds l.fragment := by
  simp [Literal.Holds, hn, xor_comm, xor_true]

lemma Literal.holds_plain {holds : Json → Prop} {l : Literal} (hn : l.negated = false) :
    l.Holds holds ↔ holds l.fragment := by
  simp [Literal.Holds, hn, xor_comm, xor_false]

namespace Fragment.Reads

variable {holds : Json → Prop}

lemma toJson_ofRun (h : Fragment.Reads holds) (run : List Literal) :
    holds (Literal.ofRun run).toJson ↔ ∀ l ∈ run, l.Holds holds := by
  simp only [Literal.ofRun]
  split
  · simp [Query.toJson, Literal.holds_plain]
  · rw [Query.toJson, BoolQuery.toJson, h.bool]
    constructor
    · rintro ⟨hm, -, hx, -⟩ l hl
      cases hn : l.negated with
      | true =>
        refine (Literal.holds_negated hn).mpr (hx _ ?_)
        exact List.mem_map.mpr ⟨l, by simp [hl, hn], rfl⟩
      | false =>
        refine (Literal.holds_plain hn).mpr (hm _ ?_)
        exact List.mem_map.mpr ⟨l, by simp [hl, hn], rfl⟩
    · intro hall
      refine ⟨?_, by simp, ?_, by simp⟩
      · intro f hf
        obtain ⟨l, hl, rfl⟩ := List.mem_map.mp hf
        obtain ⟨hl, hn⟩ := List.mem_filter.mp hl
        exact (Literal.holds_plain (by simpa using hn)).mp (hall l hl)
      · intro f hf
        obtain ⟨l, hl, rfl⟩ := List.mem_map.mp hf
        obtain ⟨hl, hn⟩ := List.mem_filter.mp hl
        exact (Literal.holds_negated (by simpa using hn)).mp (hall l hl)

lemma toJson_ofLiterals (h : Fragment.Reads holds) (ls : List Literal) :
    holds (Query.ofLiterals ls).toJson ↔
      ls = [] ∨ ∃ run ∈ Literal.runs ls, ∀ l ∈ run, l.Holds holds := by
  rw [Query.ofLiterals_eq_ofRuns]
  simp only [Query.ofRuns]
  split
  · rename_i hruns
    have hls : ls = [] := List.splitBy_eq_nil.mp hruns
    simp only [hls, true_or, iff_true]
    exact h.matchAll
  · rename_i run hruns
    have hls : ls ≠ [] := by
      rintro rfl
      cases hruns
    simp [hruns, hls, h.toJson_ofRun]
  · rename_i hne hne'
    have hls : ls ≠ [] := fun hls => hne (List.splitBy_eq_nil.mpr hls)
    rw [Query.toJson, BoolQuery.toJson, h.bool]
    simp only [List.not_mem_nil, false_implies, implies_true, true_and, ne_eq, List.map_eq_nil_iff,
      forall_const, List.mem_map, exists_exists_and_eq_and, h.toJson_ofRun, hls, false_or]
    exact ⟨fun hs => hs hne, fun hs _ => hs⟩

end Fragment.Reads

def Fragment.group (key : String) (fs : List Json) : Options :=
  if fs.isEmpty then [] else [(key, .array fs)]

lemma Fragment.bool_eq (must mustNot should filter : List Json) :
    Fragment.bool must mustNot should filter = .object [("bool", .object
      (group "filter" filter ++ (group "must" must ++ (group "must_not" mustNot ++
        (group "should" should ++ [])))))] := by
  cases must <;> cases mustNot <;> cases should <;> cases filter <;>
    simp only [Fragment.bool, body, Json.single, group, Entries.ofList, Entries.insertAll,
      Entries.insert, List.filterMap, List.foldl, List.isEmpty, String.reduceLT, String.reduceEq,
      if_true, if_false, Bool.false_eq_true, List.nil_append, List.cons_append]

namespace Json

mutual

def matched (leaf : Json → Bool) : Json → Bool
  | .object [(kind, .object members)] =>
    if kind = "bool" then
      let must := matchedGroup leaf "must" members
      let filter := matchedGroup leaf "filter" members
      let mustNot := matchedGroup leaf "must_not" members
      let should := matchedGroup leaf "should" members
      must.all (·.all id) && filter.all (·.all id) && mustNot.all (·.all not) &&
        (must.isSome || filter.isSome || should.all (·.any id))
    else kind == "match_all" || leaf (.object [(kind, .object members)])
  | v => leaf v

def matchedGroup (leaf : Json → Bool) (key : String) : List (String × Json) → Option (List Bool)
  | [] => none
  | (k, v) :: ms => if key = k then some (matchedItems leaf v) else matchedGroup leaf key ms

def matchedItems (leaf : Json → Bool) : Json → List Bool
  | .array vs => matchedList leaf vs
  | _ => []

def matchedList (leaf : Json → Bool) : List Json → List Bool
  | [] => []
  | v :: vs => matched leaf v :: matchedList leaf vs

end

lemma matchedList_eq (leaf : Json → Bool) (vs : List Json) :
    matchedList leaf vs = vs.map (matched leaf) := by
  induction vs with
  | nil => rfl
  | cons v vs ih => rw [matchedList, ih, List.map_cons]

lemma matchedGroup_append (leaf : Json → Bool) (key k : String) (fs : List Json) (ms : Options) :
    matchedGroup leaf key (Fragment.group k fs ++ ms) =
      if key = k ∧ fs ≠ [] then some (fs.map (matched leaf)) else matchedGroup leaf key ms := by
  cases fs with
  | nil => simp [Fragment.group]
  | cons f fs =>
    simp only [Fragment.group, List.isEmpty_cons, Bool.false_eq_true, if_false, List.cons_append,
      List.nil_append, matchedGroup, matchedItems, matchedList_eq, ne_eq, reduceCtorEq,
      not_false_eq_true, and_true]

lemma matched_bool (leaf : Json → Bool) (must mustNot should filter : List Json) :
    matched leaf (Fragment.bool must mustNot should filter) = true ↔
      (∀ f ∈ must, matched leaf f = true) ∧ (∀ f ∈ filter, matched leaf f = true) ∧
        (∀ f ∈ mustNot, ¬ matched leaf f = true) ∧
        (must = [] → filter = [] → should ≠ [] → ∃ f ∈ should, matched leaf f = true) := by
  rw [Fragment.bool_eq, matched]
  simp only [if_true, matchedGroup_append, matchedGroup]
  by_cases hm : must = [] <;> by_cases hf : filter = [] <;> by_cases hn : mustNot = [] <;>
    by_cases hs : should = [] <;> simp [hm, hf, hn, hs, and_assoc]

theorem reads_matched (leaf : Json → Bool) :
    Fragment.Reads fun f => matched leaf f = true where
  matchAll := by simp [matched]
  bool := matched_bool leaf

end Json

end SearchCompiler
