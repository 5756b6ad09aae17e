import Mathlib.Tactic.Common
import SearchCompiler.Clause.Basic

/-! The clauses of a tree at any depth, and the tree as a list: a clause in front of those inside
it, and its query in front of its filter. -/

namespace SearchCompiler.Clause

def parts (c : Clause) : List Clause :=
  match c.form with
  | .condition _ => []
  | .nested _ _ clauses | .functionScore _ _ clauses => clauses
  | .related _ _ query filter => query ++ filter

inductive Occurs (cs : List Clause) : Clause → Prop
  | top {c} : c ∈ cs → Occurs cs c
  | inside {c d} : Occurs cs c → d ∈ c.parts → Occurs cs d

lemma Occurs.trans {cs ds : List Clause} {c : Clause} (h : Occurs ds c)
    (hd : ∀ d ∈ ds, Occurs cs d) : Occurs cs c := by
  induction h with
  | top hc => exact hd _ hc
  | inside _ hc ih => exact ih.inside hc

mutual

def preorder : Clause → List Clause
  | ⟨form, combinator, negate, options⟩ =>
    ⟨form, combinator, negate, options⟩ :: formPreorder form

def formPreorder : ClauseForm Clause → List Clause
  | .condition _ => []
  | .nested _ _ clauses | .functionScore _ _ clauses => listPreorder clauses
  | .related _ _ query filter => listPreorder query ++ listPreorder filter

def listPreorder : List Clause → List Clause
  | [] => []
  | c :: cs => preorder c ++ listPreorder cs

end

lemma listPreorder_append (cs ds : List Clause) :
    listPreorder (cs ++ ds) = listPreorder cs ++ listPreorder ds := by
  induction cs with
  | nil => rfl
  | cons c cs ih => rw [List.cons_append, listPreorder, listPreorder, ih, List.append_assoc]

lemma preorder_eq (c : Clause) : c.preorder = c :: listPreorder c.parts := by
  obtain ⟨form, combinator, negate, options⟩ := c
  cases form with
  | condition c => rfl
  | nested form path clauses => rfl
  | functionScore function params clauses => rfl
  | related relative type query filter =>
    rw [preorder, formPreorder, parts, listPreorder_append]

lemma mem_listPreorder {cs : List Clause} {c : Clause} :
    c ∈ listPreorder cs ↔ ∃ d ∈ cs, c ∈ d.preorder := by
  induction cs with
  | nil => simp [listPreorder]
  | cons d ds ih => simp [listPreorder, ih]

mutual

lemma occurs_of_mem_preorder : (c : Clause) → ∀ {d}, d ∈ c.preorder → Occurs [c] d
  | ⟨form, combinator, negate, options⟩, d, hd => by
    rcases List.mem_cons.mp hd with rfl | hd
    · exact .top (by simp)
    · refine (occurs_of_mem_formPreorder form combinator negate options hd).trans ?_
      intro b hb
      exact Occurs.inside (.top (by simp)) hb

lemma occurs_of_mem_formPreorder : (form : ClauseForm Clause) → ∀ combinator negate options {d},
    d ∈ formPreorder form → Occurs (parts ⟨form, combinator, negate, options⟩) d
  | .condition _, _, _, _, d, hd => by cases hd
  | .nested _ _ clauses, _, _, _, d, hd => occurs_of_mem_listPreorder clauses hd
  | .functionScore _ _ clauses, _, _, _, d, hd => occurs_of_mem_listPreorder clauses hd
  | .related _ _ query filter, _, _, _, d, hd => by
    rcases List.mem_append.mp hd with hd | hd
    · refine (occurs_of_mem_listPreorder query hd).trans ?_
      intro b hb
      exact .top (List.mem_append_left _ hb)
    · refine (occurs_of_mem_listPreorder filter hd).trans ?_
      intro b hb
      exact .top (List.mem_append_right _ hb)

lemma occurs_of_mem_listPreorder : (cs : List Clause) → ∀ {d}, d ∈ listPreorder cs → Occurs cs d
  | c :: cs, d, hd => by
    rcases List.mem_append.mp hd with hd | hd
    · refine (occurs_of_mem_preorder c hd).trans ?_
      intro b hb
      obtain rfl := List.mem_singleton.mp hb
      exact .top (by simp)
    · refine (occurs_of_mem_listPreorder cs hd).trans ?_
      intro b hb
      exact .top (by simp [hb])

end

mutual

lemma mem_preorder_of_mem_parts : (c : Clause) → ∀ {b d}, b ∈ c.preorder → d ∈ b.parts →
    d ∈ c.preorder
  | ⟨form, combinator, negate, options⟩, b, d, hb, hd => by
    rcases List.mem_cons.mp hb with rfl | hb
    · rw [preorder_eq]
      exact List.mem_cons_of_mem _ (mem_listPreorder.mpr ⟨d, hd, by simp [preorder_eq]⟩)
    · exact List.mem_cons_of_mem _ (mem_formPreorder_of_mem_parts form hb hd)

lemma mem_formPreorder_of_mem_parts : (form : ClauseForm Clause) → ∀ {b d},
    b ∈ formPreorder form → d ∈ b.parts → d ∈ formPreorder form
  | .condition _, _, _, hb, _ => by cases hb
  | .nested _ _ clauses, _, _, hb, hd => mem_listPreorder_of_mem_parts clauses hb hd
  | .functionScore _ _ clauses, _, _, hb, hd => mem_listPreorder_of_mem_parts clauses hb hd
  | .related _ _ query filter, _, _, hb, hd => by
    rcases List.mem_append.mp hb with hb | hb
    · exact List.mem_append_left _ (mem_listPreorder_of_mem_parts query hb hd)
    · exact List.mem_append_right _ (mem_listPreorder_of_mem_parts filter hb hd)

lemma mem_listPreorder_of_mem_parts : (cs : List Clause) → ∀ {b d}, b ∈ listPreorder cs →
    d ∈ b.parts → d ∈ listPreorder cs
  | c :: cs, _, _, hb, hd => by
    rcases List.mem_append.mp hb with hb | hb
    · exact List.mem_append_left _ (mem_preorder_of_mem_parts c hb hd)
    · exact List.mem_append_right _ (mem_listPreorder_of_mem_parts cs hb hd)

end

lemma mem_listPreorder_iff_occurs {cs : List Clause} {c : Clause} :
    c ∈ listPreorder cs ↔ Occurs cs c := by
  constructor
  · exact occurs_of_mem_listPreorder cs
  · intro h
    induction h with
    | top hc => exact mem_listPreorder.mpr ⟨_, hc, by simp [preorder_eq]⟩
    | inside _ hd ih => exact mem_listPreorder_of_mem_parts cs ih hd

end SearchCompiler.Clause
