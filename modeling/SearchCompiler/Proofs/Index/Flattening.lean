import Mathlib.Data.List.Nodup
import SearchCompiler.Proofs.Index.Tree

/-! The field table of a mapping lists its tree: every property is there under its dotted path, and
of several with one path the last one that a walk meets. Where no two properties have one path, a
look-up follows the path down the tree. -/

namespace SearchCompiler

open Address

def segments (path : String) : List String := (path.toList.splitOn '.').map String.ofList

lemma intercalate_segments (path : String) : ".".intercalate (segments path) = path := by
  rw [← String.toList_inj, String.toList_intercalate, segments, List.map_map]
  have hid : String.toList ∘ String.ofList = id := by
    funext cs
    exact String.toList_ofList
  rw [hid, List.map_id]
  exact List.intercalate_splitOn '.'

lemma segments_intercalate {names : List String} (hne : names ≠ [])
    (h : ∀ name ∈ names, '.' ∉ name.toList) : segments (".".intercalate names) = names := by
  have hsplit : (".".intercalate names).toList.splitOn '.' = names.map String.toList := by
    rw [String.toList_intercalate]
    refine List.splitOn_intercalate '.' ?_ (by simpa using hne)
    simpa using h
  have hid : String.ofList ∘ String.toList = id := by
    funext s
    exact String.ofList_toList
  rw [segments, hsplit, List.map_map, hid, List.map_id]

namespace Property

variable {p q r : Property} {a b : Address} {name : String}

def Undotted (p : Property) : Prop :=
  ∀ branch, ∀ name ∈ (p.table branch).map Prod.fst, '.' ∉ name.toList

def Apart (p : Property) : Prop :=
  ∀ name ∈ (p.table .properties).map Prod.fst, name ∉ (p.table .variants).map Prod.fst

def child (p : Property) (name : String) : Option Property :=
  (Entries.get? name (p.table .properties)).or (Entries.get? name (p.table .variants))

def walk (p : Property) : List String → Option Property
  | [] => some p
  | name :: names => (p.child name).bind fun q => q.walk names

lemma child_eq_some_iff (hordered : p.Ordered) (hapart : p.Apart) :
    p.child name = some q ↔ ∃ branch, (name, q) ∈ p.table branch := by
  rw [child]
  constructor
  · intro h
    rcases Option.or_eq_some_iff.mp h with h | ⟨-, h⟩
    · exact ⟨.properties, Entries.mem_of_get? h⟩
    · exact ⟨.variants, Entries.mem_of_get? h⟩
  · rintro ⟨branch, h⟩
    have hget := Entries.get?_of_mem (hordered branch) h
    cases branch with
    | properties => rw [hget, Option.some_or]
    | variants =>
      have hnot : name ∉ (p.table .properties).map Prod.fst := fun hin =>
        hapart name hin (List.mem_map_of_mem h)
      rw [Entries.get?_of_not_mem hnot, Option.none_or, hget]

lemma exists_at_of_walk {names : List String} (hordered : p.Everywhere Ordered)
    (hapart : p.Everywhere Apart) (h : p.walk names = some q) :
    ∃ a, p.At a q ∧ a.map Prod.snd = names := by
  induction names generalizing p with
  | nil =>
    obtain rfl := Option.some.inj h
    exact ⟨[], .here p, rfl⟩
  | cons name names ih =>
    obtain ⟨r, hr, hwalk⟩ := Option.bind_eq_some_iff.mp h
    obtain ⟨branch, hmem⟩ := (child_eq_some_iff hordered.self hapart.self).mp hr
    obtain ⟨rest, hat, rfl⟩ := ih (hordered.below hmem) (hapart.below hmem) hwalk
    exact ⟨(branch, name) :: rest, .deeper hmem hat, rfl⟩

lemma At.walk (h : p.At a q) (hordered : p.Everywhere Ordered) (hapart : p.Everywhere Apart) :
    p.walk (a.map Prod.snd) = some q := by
  induction h with
  | here p => rfl
  | @deeper p r q branch name rest hmem hat ih =>
    have hchild : p.child name = some r :=
      (child_eq_some_iff hordered.self hapart.self).mpr ⟨branch, hmem⟩
    rw [List.map_cons, Property.walk, hchild, Option.bind_some]
    exact ih (hordered.below hmem) (hapart.below hmem)

lemma At.names_inj (ha : p.At a q) (hb : p.At b r) (hordered : p.Everywhere Ordered)
    (hapart : p.Everywhere Apart) (h : a.map Prod.snd = b.map Prod.snd) : a = b := by
  induction ha generalizing b with
  | here p => exact (List.map_eq_nil_iff.mp h.symm).symm
  | @deeper p s q branch name rest hmem hat ih =>
    obtain ⟨⟨branch', name⟩, rest', rfl, rfl, hrest⟩ := List.map_eq_cons_iff.mp h.symm
    obtain ⟨s', hmem', hat'⟩ := at_cons_iff.mp hb
    have hchild {t : Property} (h : ∃ branch, (name, t) ∈ p.table branch) : p.child name = some t :=
      (child_eq_some_iff hordered.self hapart.self).mpr h
    have hs : s = s' := Option.some.inj ((hchild ⟨_, hmem⟩).symm.trans (hchild ⟨_, hmem'⟩))
    subst hs
    -- one name in both tables is what `Apart` rules out
    have hbranch : branch = branch' := by
      have hin := List.mem_map_of_mem (f := Prod.fst) hmem
      have hin' := List.mem_map_of_mem (f := Prod.fst) hmem'
      cases branch <;> cases branch'
      · rfl
      · exact absurd hin' (hapart.self _ hin)
      · exact absurd hin (hapart.self _ hin')
      · rfl
    rw [hbranch, ih hat' (hordered.below hmem) (hapart.below hmem) hrest.symm]

lemma At.undotted (h : p.At a q) (hundotted : p.Everywhere Undotted) :
    ∀ name ∈ a.map Prod.snd, '.' ∉ name.toList := by
  induction h with
  | here p => simp
  | @deeper p r q branch name rest hmem hat ih =>
    rw [List.map_cons, List.forall_mem_cons]
    exact ⟨hundotted.self branch name (List.mem_map_of_mem hmem), ih (hundotted.below hmem)⟩

end Property

namespace Mapping

def At (m : Mapping) (a : Address) (p : Property) : Prop := a ≠ [] ∧ m.root.At a p

def Ordered (m : Mapping) : Prop := m.root.Everywhere Property.Ordered

def nodes (m : Mapping) : List (Address × Property) := m.root.nodesOf .properties

variable {m : Mapping} {a b : Address} {p q : Property} {path : String} {type : DataType}

lemma nodes_root (m : Mapping) : m.root.nodes = ([], m.root) :: m.nodes := by
  have hvariants : m.root.nodesOf .variants = [] := rfl
  rw [Property.nodes_eq, hvariants, List.append_nil, nodes]

lemma mem_nodes_iff : (a, p) ∈ m.nodes ↔ m.At a p := by
  rw [At, ← Property.mem_nodes_iff, nodes_root, List.mem_cons]
  constructor
  · intro h
    obtain ⟨_, _, _, _, _, ha⟩ := Property.mem_nodesOf.mp h
    exact ⟨by simp [show a = _ from ha], .inr h⟩
  · rintro ⟨hne, heq | h⟩
    · exact absurd (congrArg Prod.fst heq) hne
    · exact h

lemma pairwise_nodes (h : m.Ordered) : m.nodes.Pairwise fun n n' => Before n.1 n'.1 := by
  have hroot := Property.pairwise_nodes h
  rw [nodes_root] at hroot
  exact (List.pairwise_cons.mp hroot).2

lemma tableEntries_eq (h : ∀ e ∈ m.properties, e.1 ≠ "") : Property.tableEntries "" m.properties =
    m.nodes.map fun n => (Address.path n.1, n.2.typeOrObject) := by
  have hentries : Property.tableEntries "" (m.root.table .properties) =
      m.nodes.map fun n => (extend "" n.1, n.2.typeOrObject) :=
    Property.tableEntries_eq_nodesOf "" fun _ q _ parent => Property.entries_eq_nodes parent q
  refine hentries.trans (List.map_congr_left fun n hn => ?_)
  obtain ⟨name, q, rest, hq, -, hn⟩ := Property.mem_nodesOf.mp hn
  rw [hn, extend_empty (h (name, q) hq)]

lemma entries_fieldTable (m : Mapping) :
    m.fieldTable.entries = Entries.insertAll (Property.tableEntries "" m.properties) [] :=
  Dict.entries_foldl_insert _ _

lemma get?_fieldTable (h : ∀ e ∈ m.properties, e.1 ≠ "") (path : String) :
    m.fieldTable.get? path = Entries.get? path
      (m.nodes.map fun n => (Address.path n.1, n.2.typeOrObject)).reverse := by
  rw [Dict.get?, entries_fieldTable, Entries.get?_insertAll, tableEntries_eq h]
  exact Option.or_none

def LastAt (m : Mapping) (path : String) (a : Address) (p : Property) : Prop :=
  m.At a p ∧ Address.path a = path ∧
    ∀ b q, m.At b q → Address.path b = path → b = a ∨ Before b a

lemma get?_eq_some_iff (hordered : m.Ordered) (hnamed : ∀ e ∈ m.properties, e.1 ≠ "") :
    m.fieldTable.get? path = some type ↔ ∃ a p, m.LastAt path a p ∧ p.typeOrObject = type := by
  have hpairwise := pairwise_nodes hordered
  rw [get?_fieldTable hnamed, Entries.get?_reverse_eq_some_iff]
  constructor
  · rintro ⟨_, _, hsplit, hlast⟩
    obtain ⟨front, rest, hnodes, rfl, hrest⟩ := List.map_eq_append_iff.mp hsplit
    obtain ⟨⟨a, p⟩, back, rfl, hap, rfl⟩ := List.map_eq_cons_iff.mp hrest
    obtain ⟨rfl, rfl⟩ := Prod.mk.inj hap
    rw [hnodes] at hpairwise
    have hat : m.At a p := by
      rw [← mem_nodes_iff, hnodes]
      simp
    refine ⟨a, p, ⟨hat, rfl, fun b q hb hpath => ?_⟩, rfl⟩
    rw [← mem_nodes_iff, hnodes] at hb
    rcases List.mem_append.mp hb with hb | hb
    · exact .inr ((List.pairwise_append.mp hpairwise).2.2 _ hb _ List.mem_cons_self)
    rcases List.mem_cons.mp hb with heq | hb
    · exact .inl (congrArg Prod.fst heq)
    · rw [← hpath, List.map_map] at hlast
      exact absurd (List.mem_map_of_mem (f := fun n => Address.path n.1) hb) hlast
  · rintro ⟨a, p, ⟨hat, rfl, hlast⟩, rfl⟩
    obtain ⟨front, back, hnodes⟩ := List.append_of_mem (mem_nodes_iff.mpr hat)
    refine ⟨_, _, by rw [hnodes, List.map_append, List.map_cons], ?_⟩
    rw [List.map_map, List.mem_map]
    rintro ⟨⟨b, q⟩, hb, hpath⟩
    rw [hnodes, List.pairwise_append, List.pairwise_cons] at hpairwise
    have hbefore : Before a b := hpairwise.2.1.1 _ hb
    have hat' : m.At b q := by
      rw [← mem_nodes_iff, hnodes]
      simp [hb]
    rcases hlast b q hat' hpath with rfl | hback
    · exact hbefore.ne rfl
    · exact hbefore.asymm hback

lemma contains_iff (hnamed : ∀ e ∈ m.properties, e.1 ≠ "") :
    m.fieldTable.contains path = true ↔ ∃ a p, m.At a p ∧ Address.path a = path := by
  have hkeys : m.fieldTable.contains path = Entries.hasKey path
      (m.nodes.map fun n => (Address.path n.1, n.2.typeOrObject)).reverse := by
    rw [Dict.contains, get?_fieldTable hnamed, Entries.hasKey]
  simp [hkeys, Entries.hasKey_iff, mem_nodes_iff]

lemma nodup_places (h : m.Ordered) : (m.nodes.map Prod.fst).Nodup := by
  rw [List.Nodup, List.pairwise_map]
  exact (pairwise_nodes h).imp Before.ne

section

variable (hordered : m.Ordered) (hnamed : ∀ e ∈ m.properties, e.1 ≠ "")
  (hundotted : m.root.Everywhere Property.Undotted) (hapart : m.root.Everywhere Property.Apart)

include hundotted in
lemma At.segments_path (h : m.At a p) : segments (Address.path a) = a.map Prod.snd :=
  segments_intercalate (by simpa using h.1) (h.2.undotted hundotted)

include hordered hundotted hapart in
lemma At.path_inj (ha : m.At a p) (hb : m.At b q) (h : Address.path a = Address.path b) :
    a = b := by
  refine ha.2.names_inj hb.2 hordered hapart ?_
  rw [← ha.segments_path hundotted, h, hb.segments_path hundotted]

include hordered hnamed hundotted hapart

lemma At.get?_path (h : m.At a p) : m.fieldTable.get? (Address.path a) = some p.typeOrObject :=
  (get?_eq_some_iff hordered hnamed).mpr ⟨a, p, ⟨h, rfl, fun _ _ hb hpath =>
    .inl (hb.path_inj hordered hundotted hapart h hpath)⟩, rfl⟩

lemma size_fieldTable : m.fieldTable.size = (m.nodes.map Prod.fst).length := by
  have hpaths : ((m.nodes.map Prod.fst).map Address.path).Nodup := by
    refine (nodup_places hordered).map_on fun a ha b hb h => ?_
    obtain ⟨n, hn, rfl⟩ := List.mem_map.mp ha
    obtain ⟨n', hn', rfl⟩ := List.mem_map.mp hb
    exact (mem_nodes_iff.mp hn).path_inj hordered hundotted hapart (mem_nodes_iff.mp hn') h
  rw [Dict.size, entries_fieldTable, tableEntries_eq hnamed,
    (Entries.perm_insertAll (by simpa [Function.comp_def] using hpaths)).length_eq]
  simp

lemma get?_fieldTable_eq_walk (path : String) :
    m.fieldTable.get? path = (m.root.walk (segments path)).map Property.typeOrObject := by
  cases hwalk : m.root.walk (segments path) with
  | some p =>
    obtain ⟨a, hat, ha⟩ := Property.exists_at_of_walk hordered hapart hwalk
    have hpath : Address.path a = path := by rw [Address.path, ha, intercalate_segments]
    have hne : a ≠ [] := by
      rintro rfl
      exact List.splitOn_ne_nil '.' path.toList (List.map_eq_nil_iff.mp ha.symm)
    have hm : m.At a p := ⟨hne, hat⟩
    rw [← hpath, hm.get?_path hordered hnamed hundotted hapart, Option.map_some]
  | none =>
    rw [Option.map_none, Option.eq_none_iff_forall_ne_some]
    intro type htype
    obtain ⟨a, p, ⟨hat, rfl, -⟩, -⟩ := (get?_eq_some_iff hordered hnamed).mp htype
    rw [hat.segments_path hundotted, hat.2.walk hordered hapart] at hwalk
    cases hwalk

end

structure Lists (m : Mapping) (t : FieldTable) : Prop where
  paths : ∀ path, t.contains path = true ↔ ∃ a p, m.At a p ∧ Address.path a = path
  types : ∀ path type, t.get? path = some type ↔ ∃ a p, m.LastAt path a p ∧ p.typeOrObject = type

structure Mirrors (m : Mapping) (t : FieldTable) : Prop where
  entry : ∀ a p, m.At a p → t.get? (Address.path a) = some p.typeOrObject
  own : ∀ a b p q, m.At a p → m.At b q → Address.path a = Address.path b → a = b
  size : ∃ places : List Address, places.Nodup ∧ (∀ a, a ∈ places ↔ ∃ p, m.At a p) ∧
    t.size = places.length
  walks : ∀ path, t.get? path = (m.root.walk (segments path)).map Property.typeOrObject

theorem fieldTable_lists (hordered : m.Ordered) (hnamed : ∀ e ∈ m.properties, e.1 ≠ "") :
    m.Lists m.fieldTable ∧
      (m.root.Everywhere Property.Undotted → m.root.Everywhere Property.Apart →
        m.Mirrors m.fieldTable) := by
  refine ⟨⟨fun path => contains_iff hnamed, fun path type => get?_eq_some_iff hordered hnamed⟩,
    fun hundotted hapart => ?_⟩
  have hmem (a : Address) : a ∈ m.nodes.map Prod.fst ↔ ∃ p, m.At a p := by simp [mem_nodes_iff]
  constructor
  · intro a p ha
    exact ha.get?_path hordered hnamed hundotted hapart
  · intro a b p q ha hb h
    exact ha.path_inj hordered hundotted hapart hb h
  · exact ⟨m.nodes.map Prod.fst, nodup_places hordered, hmem,
      size_fieldTable hordered hnamed hundotted hapart⟩
  · exact get?_fieldTable_eq_walk hordered hnamed hundotted hapart

structure Tidy (p : Property) : Prop where
  ordered : p.Ordered
  undotted : p.Undotted
  apart : p.Apart

lemma tidy_ofType (type : DataType) : Tidy (Property.ofType type) := by
  have htable (branch : Branch) : (Property.ofType type).table branch = [] := by
    cases branch <;> rfl
  constructor <;>
    simp [Property.Ordered, Property.Undotted, Property.Apart, htable, Entries.Ascending]

def posts : Mapping where
  properties := [
    ("author", { properties := some [("email", .ofType .keyword)] }),
    ("name", { type := some .text, variants := some [("keyword", .ofType .keyword)] })]

lemma tidy_posts : posts.root.Everywhere Tidy := by
  have hauthor : Property.Everywhere Tidy { properties := some [("email", .ofType .keyword)] } := by
    refine Property.everywhere_of_leaves ⟨?_, ?_, ?_⟩ ?_
    · rintro (_ | _) <;> simp [Property.table, Entries.Ascending]
    · rintro (_ | _) <;> simp [Property.table]
    · simp [Property.Apart, Property.table]
    · rintro (_ | _) <;> simp [Property.table, tidy_ofType]
  have hname : Property.Everywhere Tidy
      { type := some .text, variants := some [("keyword", .ofType .keyword)] } := by
    refine Property.everywhere_of_leaves ⟨?_, ?_, ?_⟩ ?_
    · rintro (_ | _) <;> simp [Property.table, Entries.Ascending]
    · rintro (_ | _) <;> simp [Property.table]
    · simp [Property.Apart, Property.table]
    · rintro (_ | _) <;> simp [Property.table, tidy_ofType]
  have hnames : ("author" : String) < "name" := by decide
  rw [Property.everywhere_iff]
  refine ⟨⟨?_, ?_, ?_⟩, ?_⟩
  · rintro (_ | _)
    · exact List.pairwise_pair.mpr hnames
    · exact .nil
  · rintro (_ | _) <;> simp [Property.table, root, posts]
  · simp [Property.Apart, Property.table, root]
  · rintro (_ | _) name q hq
    · simp only [Property.table, root, posts, Option.getD_some, List.mem_cons, Prod.mk.injEq,
        List.not_mem_nil, or_false] at hq
      rcases hq with ⟨-, rfl⟩ | ⟨-, rfl⟩
      · exact hauthor
      · exact hname
    · cases hq

theorem fieldTable_lists_posts : posts.Ordered ∧ (∀ e ∈ posts.properties, e.1 ≠ "") ∧
    posts.root.Everywhere Property.Undotted ∧ posts.root.Everywhere Property.Apart ∧
      posts.Lists posts.fieldTable ∧ posts.Mirrors posts.fieldTable := by
  have hordered : posts.Ordered := tidy_posts.imp fun _ h => h.ordered
  have hundotted : posts.root.Everywhere Property.Undotted := tidy_posts.imp fun _ h => h.undotted
  have hapart : posts.root.Everywhere Property.Apart := tidy_posts.imp fun _ h => h.apart
  have hnamed : ∀ e ∈ posts.properties, e.1 ≠ "" := by simp [posts]
  obtain ⟨hlists, hmirrors⟩ := fieldTable_lists hordered hnamed
  exact ⟨hordered, hnamed, hundotted, hapart, hlists, hmirrors hundotted hapart⟩

example : (fieldTable { properties := [
    ("author", { properties := some [("email", .ofType .text)] }),
    ("author.email", .ofType .keyword)] }).entries =
      [("author", .object), ("author.email", .keyword)] := by
  decide

end Mapping

end SearchCompiler
