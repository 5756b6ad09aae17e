import Mathlib.Data.List.Basic
import Mathlib.Tactic.Common
import SearchCompiler.Index.Mapping
import SearchCompiler.Proofs.Dict

/-! A mapping as a tree: the properties below a property by the steps that lead down to them, and
the order in which a walk meets them. -/

namespace SearchCompiler

inductive Branch where
  | properties | variants
  deriving DecidableEq

abbrev Address := List (Branch × String)

namespace Address

def path (a : Address) : String := ".".intercalate (a.map Prod.snd)

/-- The order of a walk: a property first, then what is below it, its properties before its variants
and each table by ascending names. -/
inductive Before : Address → Address → Prop
  | under {step rest} : Before [] (step :: rest)
  | branch {name name' rest rest'} :
      Before ((.properties, name) :: rest) ((.variants, name') :: rest')
  | name {branch name name' rest rest'} : name < name' →
      Before ((branch, name) :: rest) ((branch, name') :: rest')
  | deeper {step rest rest'} : Before rest rest' → Before (step :: rest) (step :: rest')

variable {a b : Address}

lemma Before.asymm (h : Before a b) : ¬ Before b a := by
  induction h with
  | under => rintro ⟨⟩
  | branch => rintro ⟨⟩
  | name hlt =>
    rintro (_ | _ | hgt | _)
    · exact String.lt_asymm hlt hgt
    · exact String.lt_irrefl _ hlt
  | deeper h ih =>
    rintro (_ | _ | hlt | hback)
    · exact String.lt_irrefl _ hlt
    · exact ih hback

lemma Before.ne (h : Before a b) : a ≠ b := by
  rintro rfl
  exact h.asymm h

def extend (parent : String) (a : Address) : String :=
  a.foldl (fun parent step => joinPath parent step.2) parent

lemma extend_of_ne {parent : String} (h : parent ≠ "") (a : Address) :
    extend parent a = ".".intercalate (parent :: a.map Prod.snd) := by
  induction a generalizing parent with
  | nil => simp [extend]
  | cons step rest ih =>
    have hjoin : joinPath parent step.2 = parent ++ ("." ++ step.2) := by
      rw [joinPath, if_neg (by simpa using h), String.append_assoc]
    have hne : parent ++ ("." ++ step.2) ≠ "" := by simp [h]
    calc extend parent (step :: rest)
      _ = extend (joinPath parent step.2) rest := rfl
      _ = ".".intercalate ((parent ++ ("." ++ step.2)) :: rest.map Prod.snd) := by
        rw [hjoin, ih hne]
      _ = ".".intercalate (parent :: step.2 :: rest.map Prod.snd) := by
        rw [String.intercalate_cons_append, String.intercalate_cons_append,
          String.intercalate_cons_cons, String.append_assoc]

lemma extend_empty {branch : Branch} {name : String} (h : name ≠ "") (rest : Address) :
    extend "" ((branch, name) :: rest) = path ((branch, name) :: rest) :=
  extend_of_ne h rest

end Address

open Address

namespace Property

def table (p : Property) : Branch → List (String × Property)
  | .properties => p.properties.getD []
  | .variants => p.variants.getD []

variable {p q r : Property} {a b : Address} {branch : Branch} {name : String}

lemma sizeOf_lt_of_mem_table (h : (name, q) ∈ p.table branch) : sizeOf q < sizeOf p := by
  obtain ⟨type, properties, variants⟩ := p
  cases branch with
  | properties =>
    cases properties with
    | none => cases h
    | some t =>
      have := List.sizeOf_lt_of_mem (show (name, q) ∈ t from h)
      simp at this ⊢
      omega
  | variants =>
    cases variants with
    | none => cases h
    | some t =>
      have := List.sizeOf_lt_of_mem (show (name, q) ∈ t from h)
      simp at this ⊢
      omega

@[elab_as_elim]
lemma table_induction {P : Property → Prop}
    (h : ∀ p, (∀ branch name q, (name, q) ∈ p.table branch → P q) → P p) (p : Property) : P p :=
  h p fun _ _ q hq =>
    have := sizeOf_lt_of_mem_table hq
    table_induction h q
termination_by sizeOf p

inductive At : Property → Address → Property → Prop
  | here (p : Property) : At p [] p
  | deeper {p q r : Property} {branch : Branch} {name : String} {rest : Address} :
      (name, q) ∈ p.table branch → At q rest r → At p ((branch, name) :: rest) r

lemma at_cons_iff {rest : Address} : p.At ((branch, name) :: rest) r ↔
    ∃ q, (name, q) ∈ p.table branch ∧ q.At rest r := by
  constructor
  · rintro (_ | ⟨hmem, hat⟩)
    exact ⟨_, hmem, hat⟩
  · rintro ⟨q, hmem, hat⟩
    exact .deeper hmem hat

def Everywhere (P : Property → Prop) (p : Property) : Prop :=
  ∀ a q, p.At a q → P q

variable {P : Property → Prop}

lemma everywhere_iff : p.Everywhere P ↔
    P p ∧ ∀ branch name q, (name, q) ∈ p.table branch → q.Everywhere P := by
  constructor
  · intro h
    exact ⟨h _ _ (.here p), fun branch name q hq a r hr => h _ _ (.deeper hq hr)⟩
  · rintro ⟨hp, hbelow⟩ a q (_ | ⟨hmem, hat⟩)
    · exact hp
    · exact hbelow _ _ _ hmem _ _ hat

lemma Everywhere.self (h : p.Everywhere P) : P p := (everywhere_iff.mp h).1

lemma Everywhere.below (h : p.Everywhere P) (hq : (name, q) ∈ p.table branch) : q.Everywhere P :=
  (everywhere_iff.mp h).2 branch name q hq

lemma Everywhere.of_mem_properties (h : p.Everywhere P) {e : String × Property}
    (he : e ∈ p.properties.getD []) : e.2.Everywhere P := by
  have hmem : (e.1, e.2) ∈ p.table .properties := he
  exact h.below hmem

lemma everywhere_ofType {type : DataType} (h : P (ofType type)) : (ofType type).Everywhere P := by
  rw [everywhere_iff]
  refine ⟨h, fun branch name q hq => ?_⟩
  cases branch <;> cases hq

lemma everywhere_of_leaves (hp : P p) (h : ∀ branch, ∀ e ∈ p.table branch,
    ∃ type, e.2 = ofType type ∧ P e.2) : p.Everywhere P := by
  rw [everywhere_iff]
  refine ⟨hp, fun branch name q hq => ?_⟩
  obtain ⟨type, rfl, hq⟩ := h branch (name, q) hq
  exact everywhere_ofType hq

lemma Everywhere.imp {Q : Property → Prop} (h : p.Everywhere P) (hPQ : ∀ q, P q → Q q) :
    p.Everywhere Q :=
  fun a q hq => hPQ q (h a q hq)

def nodes (p : Property) : List (Address × Property) :=
  ([], p) :: [Branch.properties, .variants].flatMap fun branch =>
    (p.table branch).attach.flatMap fun e =>
      have := sizeOf_lt_of_mem_table e.2
      (nodes e.1.2).map fun n => ((branch, e.1.1) :: n.1, n.2)
termination_by sizeOf p

def nodesOf (p : Property) (branch : Branch) : List (Address × Property) :=
  (p.table branch).flatMap fun e => (nodes e.2).map fun n => ((branch, e.1) :: n.1, n.2)

lemma nodes_eq (p : Property) :
    p.nodes = ([], p) :: (p.nodesOf .properties ++ p.nodesOf .variants) := by
  have hattach (branch : Branch) : ((p.table branch).attach.flatMap fun e =>
      (nodes e.1.2).map fun n => ((branch, e.1.1) :: n.1, n.2)) = p.nodesOf branch := by
    rw [nodesOf]
    conv_rhs => rw [← List.attach_map_subtype_val (p.table branch), List.flatMap_map]
  rw [nodes]
  simp only [List.flatMap_cons, List.flatMap_nil, List.append_nil, hattach]

lemma mem_nodesOf {n : Address × Property} : n ∈ p.nodesOf branch ↔
    ∃ name q rest, (name, q) ∈ p.table branch ∧ (rest, n.2) ∈ q.nodes ∧
      n.1 = (branch, name) :: rest := by
  obtain ⟨a, r⟩ := n
  simp only [nodesOf, List.mem_flatMap, List.mem_map, Prod.exists, Prod.mk.injEq]
  constructor
  · rintro ⟨name, q, hq, rest, r', hr, rfl, rfl⟩
    exact ⟨name, q, rest, hq, hr, rfl⟩
  · rintro ⟨name, q, rest, hq, hr, rfl⟩
    exact ⟨name, q, hq, rest, r, hr, rfl, rfl⟩

lemma mem_nodes_iff : (a, r) ∈ p.nodes ↔ p.At a r := by
  induction p using table_induction generalizing a r with
  | h p ih =>
    rw [nodes_eq, List.mem_cons, List.mem_append, mem_nodesOf, mem_nodesOf]
    constructor
    · rintro (heq | ⟨name, q, rest, hq, hr, rfl⟩ | ⟨name, q, rest, hq, hr, rfl⟩)
      · cases heq
        exact .here p
      · exact .deeper hq ((ih _ _ _ hq).mp hr)
      · exact .deeper hq ((ih _ _ _ hq).mp hr)
    · rintro (_ | @⟨_, q, _, branch, name, rest, hq, hr⟩)
      · exact .inl rfl
      · have hrest := (ih _ _ _ hq).mpr hr
        cases branch with
        | properties => exact .inr (.inl ⟨name, q, rest, hq, hrest, rfl⟩)
        | variants => exact .inr (.inr ⟨name, q, rest, hq, hrest, rfl⟩)

def Ordered (p : Property) : Prop := ∀ branch, Entries.Ascending (p.table branch)

lemma pairwise_nodesOf (hp : p.Ordered)
    (hbelow : ∀ name q, (name, q) ∈ p.table branch → q.nodes.Pairwise fun n n' => Before n.1 n'.1) :
    (p.nodesOf branch).Pairwise fun n n' => Before n.1 n'.1 := by
  rw [nodesOf, List.pairwise_flatMap]
  constructor
  · intro e he
    rw [List.pairwise_map]
    exact (hbelow e.1 e.2 he).imp .deeper
  · refine (hp branch).imp fun {e e'} hlt n hn n' hn' => ?_
    obtain ⟨_, _, rfl⟩ := List.mem_map.mp hn
    obtain ⟨_, _, rfl⟩ := List.mem_map.mp hn'
    exact .name hlt

lemma pairwise_nodes (h : p.Everywhere Ordered) : p.nodes.Pairwise fun n n' => Before n.1 n'.1 := by
  induction p using table_induction with
  | h p ih =>
    have htable (branch : Branch) : (p.nodesOf branch).Pairwise fun n n' => Before n.1 n'.1 :=
      pairwise_nodesOf h.self fun name q hq => ih branch name q hq (h.below hq)
    rw [nodes_eq, List.pairwise_cons, List.pairwise_append]
    refine ⟨fun n hn => ?_, htable _, htable _, fun n hn n' hn' => ?_⟩
    · rcases List.mem_append.mp hn with hn | hn <;>
      · obtain ⟨_, _, _, _, _, heq⟩ := mem_nodesOf.mp hn
        rw [heq]
        exact .under
    · obtain ⟨_, _, _, _, _, heq⟩ := mem_nodesOf.mp hn
      obtain ⟨_, _, _, _, _, heq'⟩ := mem_nodesOf.mp hn'
      rw [heq, heq']
      exact .branch

lemma tableEntries_eq_flatMap (parent : String) (t : List (String × Property)) :
    tableEntries parent t = t.flatMap fun e => entries (joinPath parent e.1) e.2 := by
  induction t with
  | nil => rw [tableEntries, List.flatMap_nil]
  | cons e rest ih => rw [tableEntries, ih, List.flatMap_cons]

lemma optionalEntries_eq (parent : String) (o : Option (List (String × Property))) :
    optionalEntries parent o = tableEntries parent (o.getD []) := by
  cases o with
  | none => rw [optionalEntries, Option.getD_none, tableEntries]
  | some t => rw [optionalEntries, Option.getD_some]

lemma entries_eq (parent : String) (p : Property) : entries parent p =
    (parent, p.typeOrObject) ::
      (tableEntries parent (p.table .properties) ++ tableEntries parent (p.table .variants)) := by
  obtain ⟨type, properties, variants⟩ := p
  rw [entries, optionalEntries_eq, optionalEntries_eq]
  rfl

lemma tableEntries_eq_nodesOf (parent : String) (h : ∀ name q, (name, q) ∈ p.table branch →
      ∀ parent, entries parent q = q.nodes.map fun n => (extend parent n.1, n.2.typeOrObject)) :
    tableEntries parent (p.table branch) =
      (p.nodesOf branch).map fun n => (extend parent n.1, n.2.typeOrObject) := by
  rw [tableEntries_eq_flatMap, nodesOf, List.map_flatMap]
  refine List.flatMap_congr fun e he => ?_
  rw [h e.1 e.2 he, List.map_map]
  rfl

lemma entries_eq_nodes (parent : String) (p : Property) :
    entries parent p = p.nodes.map fun n => (extend parent n.1, n.2.typeOrObject) := by
  induction p using table_induction generalizing parent with
  | h p ih =>
    have htable (branch : Branch) : tableEntries parent (p.table branch) =
        (p.nodesOf branch).map fun n => (extend parent n.1, n.2.typeOrObject) :=
      tableEntries_eq_nodesOf parent fun name q hq parent => ih branch name q hq parent
    rw [entries_eq, nodes_eq, List.map_cons, List.map_append, htable, htable]
    rfl

end Property

namespace Mapping

def root (m : Mapping) : Property := { properties := some m.properties }

end Mapping

end SearchCompiler
