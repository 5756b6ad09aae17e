import Mathlib.Algebra.BigOperators.Group.List.Basic
import Mathlib.Algebra.GroupWithZero.Nat
import Mathlib.Data.List.SplitBy
import Mathlib.Tactic.Common
import SearchCompiler.Query.Literal

/-! The query of a list of literals, told by the runs of the list. What one pass keeps in mind
about a list is made of its last run and the runs before it. -/

namespace SearchCompiler

def Combinator.runs {α : Type} (join : α → Combinator) (xs : List α) : List (List α) :=
  xs.splitBy fun _ x => join x = .and

namespace Combinator

variable {α β : Type} {join : α → Combinator}

lemma ne_nil_of_mem_runs {xs run : List α} (h : run ∈ runs join xs) : run ≠ [] :=
  List.ne_nil_of_mem_splitBy h

lemma flatten_runs (xs : List α) : (runs join xs).flatten = xs :=
  List.flatten_splitBy _ xs

lemma runs_snoc_or {x : α} (xs : List α) (hx : join x = .or) :
    runs join (xs ++ [x]) = runs join xs ++ [[x]] := by
  rw [runs, List.splitBy_append_cons [] (by simp [hx])]
  rfl

lemma runs_snoc_and {x : α} {xs run : List α} {closed : List (List α)} (hx : join x = .and)
    (h : runs join xs = closed ++ [run]) : runs join (xs ++ [x]) = closed ++ [run ++ [x]] := by
  obtain ⟨hf, hn, hc, hb⟩ := List.splitBy_eq_iff.mp h
  have hr : run ≠ [] := by
    rintro rfl
    simp at hn
  have hn' : [] ∉ closed ++ [run ++ [x]] := by
    intro hm
    simp at hm
    exact hn (List.mem_append_left _ hm)
  refine List.splitBy_eq_iff.mpr ⟨by simp [hf], hn', ?_, ?_⟩
  · intro piece hp
    rcases List.mem_append.mp hp with hp | hp
    · exact hc piece (List.mem_append_left _ hp)
    · obtain rfl := List.mem_singleton.mp hp
      refine List.isChain_append.mpr ⟨hc run (by simp), by simp, ?_⟩
      simp [hx]
  · obtain ⟨hl, _, hj⟩ := List.isChain_append.mp hb
    refine List.isChain_append.mpr ⟨hl, by simp, fun a ha b hb' => ?_⟩
    obtain ⟨hna, _, hab⟩ := hj a ha run (by simp)
    obtain rfl : run ++ [x] = b := by simpa using hb'
    refine ⟨hna, by simp, ?_⟩
    rwa [List.head_append_of_ne_nil hr]

lemma isChain_iff (xs : List α) :
    xs.IsChain (fun _ x => decide (join x = .and) = true) ↔ ∀ x ∈ xs.tail, join x = .and := by
  cases xs with
  | nil => simp
  | cons x xs =>
    induction xs generalizing x with
    | nil => simp
    | cons y ys ih =>
      rw [List.isChain_cons_cons, ih y]
      simp

lemma runs_of_and {xs : List α} (hn : xs ≠ []) (h : ∀ x ∈ xs.tail, join x = .and) :
    runs join xs = [xs] :=
  List.splitBy_of_isChain hn ((isChain_iff xs).mpr h)

lemma two_le_length_runs {xs : List α} (h : ∃ x ∈ xs.tail, join x = .or) :
    2 ≤ (runs join xs).length := by
  obtain ⟨x, hx, ho⟩ := h
  match hr : runs join xs with
  | [] =>
    rw [List.splitBy_eq_nil.mp hr] at hx
    cases hx
  | [run] =>
    have hf : (runs join xs).flatten = xs := flatten_runs xs
    have hxs : run = xs := by simpa [hr] using hf
    have hc := List.isChain_of_mem_splitBy (show xs ∈ runs join xs by rw [hr, hxs]; simp)
    have ha := (isChain_iff xs).mp hc x hx
    rw [ho] at ha
    cases ha
  | _ :: _ :: _ => simp

private lemma forall₂_loop {joinα : α → Combinator} {joinβ : β → Combinator} {R : α → β → Prop}
    (hR : ∀ a b, R a b → joinα a = joinβ b) {xs g : List α} {ys g' : List β} {a : α} {b : β}
    {gs : List (List α)} {gs' : List (List β)} (hxs : List.Forall₂ R xs ys) (hab : R a b)
    (hg : List.Forall₂ R g g') (hgs : List.Forall₂ (List.Forall₂ R) gs gs') :
    List.Forall₂ (List.Forall₂ R) (List.splitBy.loop (fun _ x => joinα x = .and) xs a g gs)
      (List.splitBy.loop (fun _ y => joinβ y = .and) ys b g' gs') := by
  induction hxs generalizing a b g g' gs gs' with
  | nil => exact List.rel_reverse (.cons (List.rel_reverse (.cons hab hg)) hgs)
  | @cons x y xs ys hxy _ ih =>
    simp only [List.splitBy.loop, hR x y hxy]
    split
    · exact ih hxy (.cons hab hg) hgs
    · exact ih hxy .nil (.cons (List.rel_reverse (.cons hab hg)) hgs)

lemma forall₂_runs {joinα : α → Combinator} {joinβ : β → Combinator} {R : α → β → Prop}
    (hR : ∀ a b, R a b → joinα a = joinβ b) {xs : List α} {ys : List β}
    (h : List.Forall₂ R xs ys) :
    List.Forall₂ (List.Forall₂ R) (runs joinα xs) (runs joinβ ys) := by
  cases h with
  | nil => exact .nil
  | cons hab hxs => exact forall₂_loop hR hxs hab .nil .nil

end Combinator

namespace Literal

def runs (ls : List Literal) : List (List Literal) := Combinator.runs combinator ls

def plain (ls : List Literal) : List Json := (ls.filter fun l => !l.negated).map fragment

def excluded (ls : List Literal) : List Json := (ls.filter fun l => l.negated).map fragment

def weight (l : Literal) : ℕ := if l.negated then 2 else 1

def ofRun : List Literal → Query
  | [⟨_, false, fragment⟩] => .bare fragment
  | run => .bool { must := plain run, mustNot := excluded run }

end Literal

def Query.ofRuns : List (List Literal) → Query
  | [] => .matchAll
  | [run] => Literal.ofRun run
  | runs => .bool { should := runs.map fun run => (Literal.ofRun run).toJson }

namespace Literal

lemma plain_snoc (ls : List Literal) (l : Literal) :
    plain (ls ++ [l]) = plain ls ++ if l.negated then [] else [l.fragment] := by
  cases hn : l.negated <;> simp [plain, hn]

lemma excluded_snoc (ls : List Literal) (l : Literal) :
    excluded (ls ++ [l]) = excluded ls ++ if l.negated then [l.fragment] else [] := by
  cases hn : l.negated <;> simp [excluded, hn]

lemma weight_pos (l : Literal) : 0 < l.weight := by
  rw [weight]
  split <;> omega

lemma length_plain_add_excluded (ls : List Literal) :
    (plain ls).length + (excluded ls).length = ls.length := by
  induction ls with
  | nil => rfl
  | cons l ls ih =>
    cases hn : l.negated <;> simp [plain, excluded, hn] at ih ⊢ <;> omega

lemma ofGroups_run (run : List Literal) :
    Query.ofGroups { must := plain run, mustNot := excluded run } = ofRun run := by
  match run with
  | [] => rfl
  | [⟨_, false, _⟩] => rfl
  | [⟨_, true, _⟩] => rfl
  | l :: l' :: ls =>
    have hl := length_plain_add_excluded (l :: l' :: ls)
    have hs : BoolQuery.size
        { must := plain (l :: l' :: ls), mustNot := excluded (l :: l' :: ls) } ≠ 1 := by
      simp only [BoolQuery.size, List.length_cons, List.length_nil] at hl ⊢
      omega
    have ho : BoolQuery.onlyMust?
        { must := plain (l :: l' :: ls), mustNot := excluded (l :: l' :: ls) } = none := by
      rw [BoolQuery.onlyMust?]
      split
      · exact if_neg hs
      · rfl
    simp only [Query.ofGroups, ho, ofRun]

lemma sum_weight_eq_one {ls : List Literal} (h : (ls.map weight).sum = 1) :
    ∃ l, ls = [l] ∧ l.negated = false := by
  match ls with
  | [] => simp at h
  | [l] =>
    refine ⟨l, rfl, ?_⟩
    by_contra hn
    simp [weight, hn] at h
  | l :: l' :: ls =>
    have hl := weight_pos l
    have hl' := weight_pos l'
    simp only [List.map_cons, List.sum_cons] at h
    omega

end Literal

namespace Gathering

open Literal

structure Describes (g : Gathering) (before : List (List Literal)) (run : List Literal) : Prop where
  current : g.current = { must := plain run, mustNot := excluded run }
  closed : g.closed = before.map fun r => (Literal.ofRun r).toJson
  weight : g.weight = ((before.flatten ++ run).map Literal.weight).sum
  lastPlain : g.lastPlain = (plain (before.flatten ++ run)).getLast?

variable {g : Gathering} {before : List (List Literal)} {run : List Literal}

lemma Describes.isEmpty_iff (h : g.Describes before run) :
    g.current.isEmpty = true ↔ run = [] := by
  have hl := length_plain_add_excluded run
  rw [h.current, BoolQuery.isEmpty, BoolQuery.size, beq_iff_eq]
  simp only [List.length_nil, Nat.add_zero, hl, List.length_eq_zero_iff]

lemma Describes.add (h : g.Describes before run) (l : Literal) :
    (g.add l).Describes before (run ++ [l]) := by
  obtain ⟨hc, hb, hw, hl⟩ := h
  cases hn : l.negated with
  | true =>
    constructor
    · simp [Gathering.add, hn, hc, plain_snoc, excluded_snoc]
    · simp [Gathering.add, hn, hb]
    · simp [Gathering.add, hn, hw, Literal.weight, Nat.add_assoc]
    · rw [← List.append_assoc, plain_snoc]
      simp [Gathering.add, hn, hl]
  | false =>
    constructor
    · simp [Gathering.add, hn, hc, plain_snoc, excluded_snoc]
    · simp [Gathering.add, hn, hb]
    · simp [Gathering.add, hn, hw, Literal.weight, Nat.add_assoc]
    · rw [← List.append_assoc, plain_snoc]
      simp [Gathering.add, hn]

lemma Describes.closeRun (h : g.Describes before run) (hr : run ≠ []) :
    g.closeRun.Describes (before ++ [run]) [] := by
  have he : ¬ g.current.isEmpty = true := fun he => hr (h.isEmpty_iff.mp he)
  rw [Gathering.closeRun, if_neg he]
  constructor
  · rfl
  · simp [h.closed, h.current, ofGroups_run]
  · simpa using h.weight
  · simpa using h.lastPlain

lemma Describes.push_or (h : g.Describes before run) (hr : run ≠ []) {l : Literal}
    (hl : l.combinator = .or) : (g.push l).Describes (before ++ [run]) [l] := by
  rw [push, hl]
  exact (h.closeRun hr).add l

lemma Describes.push_and (h : g.Describes before run) {l : Literal}
    (hl : l.combinator = .and) : (g.push l).Describes before (run ++ [l]) := by
  rw [push, hl]
  exact h.add l

lemma push_empty (l : Literal) : (push {} l).Describes [] [l] := by
  have h : Describes {} [] [] := ⟨rfl, rfl, rfl, rfl⟩
  have hp : push {} l = add {} l := by
    rw [push]
    split <;> rfl
  rw [hp]
  exact h.add l

theorem describes_foldl (l : Literal) (ls : List Literal) :
    ∃ before run, Literal.runs (l :: ls) = before ++ [run] ∧
      ((l :: ls).foldl push {}).Describes before run := by
  induction ls using List.reverseRecOn with
  | nil => exact ⟨[], [l], rfl, push_empty l⟩
  | append_singleton ls l' ih =>
    obtain ⟨before, run, hruns, hg⟩ := ih
    have hr : run ≠ [] := Combinator.ne_nil_of_mem_runs (by rw [← Literal.runs, hruns]; simp)
    rw [← List.cons_append, List.foldl_append]
    cases hl : l'.combinator with
    | and => exact ⟨before, run ++ [l'], Combinator.runs_snoc_and hl hruns, hg.push_and hl⟩
    | or =>
      refine ⟨before ++ [run], [l'], ?_, hg.push_or hr hl⟩
      rw [Literal.runs, Combinator.runs_snoc_or _ hl, ← Literal.runs, hruns]

lemma Describes.finish (h : g.Describes before run) (hr : run ≠ []) :
    g.finish = Query.ofRuns (before ++ [run]) := by
  have he : ¬ g.current.isEmpty = true := fun he => hr (h.isEmpty_iff.mp he)
  cases before with
  | nil =>
    have hc : g.closed = [] := h.closed
    have hw : g.weight = (run.map Literal.weight).sum := h.weight
    have hp : g.lastPlain = (plain run).getLast? := h.lastPlain
    rw [Gathering.finish, hc, List.isEmpty_nil, if_pos rfl, if_neg he]
    change _ = Literal.ofRun run
    split
    · rename_i fragment hw' hf
      obtain ⟨l, rfl, hn⟩ := sum_weight_eq_one (hw.symm.trans hw')
      obtain ⟨k, n, f⟩ := l
      obtain rfl : n = false := hn
      rw [hp] at hf
      simpa [plain, Literal.ofRun, eq_comm] using hf
    · rename_i hnot
      rw [h.current]
      simp only [Literal.ofRun]
      split
      · exact (hnot _ hw hp).elim
      · rfl
  | cons r rs =>
    have hc : ¬ g.closed.isEmpty = true := by simp [h.closed]
    rw [Gathering.finish, if_neg hc, (h.closeRun hr).closed]
    cases rs <;> rfl

end Gathering

theorem Query.ofLiterals_eq_ofRuns (ls : List Literal) :
    Query.ofLiterals ls = Query.ofRuns (Literal.runs ls) := by
  cases ls with
  | nil => rfl
  | cons l ls =>
    obtain ⟨before, run, hruns, hg⟩ := Gathering.describes_foldl l ls
    have hr : run ≠ [] := Combinator.ne_nil_of_mem_runs (by rw [← Literal.runs, hruns]; simp)
    rw [Query.ofLiterals, hg.finish hr, hruns]

namespace Query

variable {ls : List Literal}

lemma ofLiterals_eq_matchAll : ofLiterals ls = .matchAll ↔ ls = [] := by
  rw [ofLiterals_eq_ofRuns]
  constructor
  · intro h
    simp only [ofRuns] at h
    split at h
    · rename_i hruns
      exact List.splitBy_eq_nil.mp hruns
    · simp only [Literal.ofRun] at h
      split at h <;> cases h
    · cases h
  · rintro rfl
    rfl

lemma isMatchAll_ofLiterals (ls : List Literal) : (ofLiterals ls).isMatchAll = ls.isEmpty := by
  cases ls with
  | nil => rfl
  | cons l ls =>
    have hne : ofLiterals (l :: ls) ≠ .matchAll := by
      rw [Ne, ofLiterals_eq_matchAll]
      exact List.cons_ne_nil l ls
    cases hq : ofLiterals (l :: ls) with
    | matchAll => exact absurd hq hne
    | bare | bool => rfl

lemma ofLiterals_of_and (hn : ls ≠ []) (h : ∀ l ∈ ls.tail, l.combinator = .and) :
    ofLiterals ls = Literal.ofRun ls := by
  rw [ofLiterals_eq_ofRuns, Literal.runs, Combinator.runs_of_and hn h]
  rfl

lemma ofLiterals_of_or (h : ∃ l ∈ ls.tail, l.combinator = .or) :
    ofLiterals ls =
      .bool { should := (Literal.runs ls).map fun run => (Literal.ofRun run).toJson } := by
  have hl : 2 ≤ (Literal.runs ls).length := Combinator.two_le_length_runs h
  rw [ofLiterals_eq_ofRuns]
  simp only [ofRuns]
  split
  · rename_i hr
    simp [hr] at hl
  · rename_i run hr
    simp [hr] at hl
  · rfl

lemma ofLiterals_eq_bare {fragment : Json} :
    ofLiterals ls = .bare fragment ↔ ∃ k, ls = [⟨k, false, fragment⟩] := by
  constructor
  · intro h
    by_cases hn : ls = []
    · rw [ofLiterals_eq_matchAll.mpr hn] at h
      cases h
    by_cases ho : ∃ l ∈ ls.tail, l.combinator = .or
    · rw [ofLiterals_of_or ho] at h
      cases h
    · have ha : ∀ l ∈ ls.tail, l.combinator = .and := fun l hl => by
        cases hk : l.combinator with
        | and => rfl
        | or => exact (ho ⟨l, hl, hk⟩).elim
      rw [ofLiterals_of_and hn ha] at h
      simp only [Literal.ofRun] at h
      split at h
      · rename_i k f
        obtain rfl := Query.bare.inj h
        exact ⟨k, rfl⟩
      · cases h
  · rintro ⟨k, rfl⟩
    rw [ofLiterals_of_and (by simp) (by simp)]
    rfl

end Query

lemma Literal.ofRun_ne_empty {run : List Literal} (hr : run ≠ []) {g : BoolQuery}
    (h : ofRun run = .bool g) : g.isEmpty = false := by
  simp only [ofRun] at h
  split at h
  · cases h
  · obtain rfl := Query.bool.inj h
    have hl := length_plain_add_excluded run
    have hp := List.length_pos_iff.mpr hr
    rw [BoolQuery.isEmpty, BoolQuery.size, beq_eq_false_iff_ne]
    simp only [List.length_nil]
    omega

lemma Query.ofLiterals_ne_empty {ls : List Literal} {g : BoolQuery}
    (h : ofLiterals ls = .bool g) : g.isEmpty = false := by
  rw [ofLiterals_eq_ofRuns] at h
  simp only [ofRuns] at h
  split at h
  · cases h
  · rename_i run hruns
    refine Literal.ofRun_ne_empty ?_ h
    exact Combinator.ne_nil_of_mem_runs (show run ∈ Literal.runs ls by simp [hruns])
  · rename_i hne _
    obtain rfl := Query.bool.inj h
    cases hruns : Literal.runs ls with
    | nil => exact (hne hruns).elim
    | cons run runs => simp [BoolQuery.isEmpty, BoolQuery.size]

end SearchCompiler
