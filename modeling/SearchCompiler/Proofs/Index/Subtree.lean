import Mathlib.Data.List.TakeWhile
import SearchCompiler.Index.FieldTable
import SearchCompiler.Proofs.Dict
import SearchCompiler.Proofs.Text.Bytes

/-! The part of a field table below a name. The paths that start with the name stand together in
the table, so a scan that starts at the name and stops behind them passes no path over. -/

namespace SearchCompiler

open Text (bytes startsWith)

section Scan

variable {α : Type} {p q : α → Bool} {l : List α}

lemma filter_dropWhile (h : ∀ a ∈ l, q a = true → p a = false) :
    (l.dropWhile q).filter p = l.filter p := by
  induction l with
  | nil => rfl
  | cons a l ih =>
    obtain ⟨ha, hl⟩ := List.forall_mem_cons.mp h
    cases hq : q a with
    | true => rw [List.dropWhile_cons_of_pos hq, ih hl, List.filter_cons_of_neg (by simp [ha hq])]
    | false => rw [List.dropWhile_cons_of_neg (by simp [hq])]

lemma filter_takeWhile (h : ∀ a ∈ l, q a = false → p a = false)
    (hl : l.Pairwise fun a b => q a = false → p b = false) :
    (l.takeWhile q).filter p = l.filter p := by
  induction l with
  | nil => rfl
  | cons a l ih =>
    obtain ⟨ha, hrest⟩ := List.forall_mem_cons.mp h
    obtain ⟨hbehind, hl⟩ := List.pairwise_cons.mp hl
    cases hq : q a with
    | true =>
      rw [List.takeWhile_cons_of_pos hq, List.filter_cons, List.filter_cons, ih hrest hl]
    | false =>
      have hnone : ∀ b ∈ a :: l, ¬ p b = true := by
        intro b hb
        rcases List.mem_cons.mp hb with rfl | hb
        · simp [ha hq]
        · simp [hbehind b hb hq]
      rw [List.takeWhile_cons_of_neg (by simp [hq]), List.filter_nil,
        List.filter_eq_nil_iff.mpr hnone]

lemma eq_false_of_mem_dropWhile (hl : l.Pairwise fun a b => q b = true → q a = true) {a : α}
    (ha : a ∈ l.dropWhile q) : q a = false := by
  induction l with
  | nil => cases ha
  | cons b l ih =>
    obtain ⟨hb, hl⟩ := List.pairwise_cons.mp hl
    cases hq : q b with
    | true =>
      rw [List.dropWhile_cons_of_pos hq] at ha
      exact ih hl ha
    | false =>
      rw [List.dropWhile_cons_of_neg (by simp [hq])] at ha
      rcases List.mem_cons.mp ha with rfl | ha
      · exact hq
      · by_contra hc
        rw [hb a ha (by simpa using hc)] at hq
        cases hq

end Scan

lemma isPrefix_of_between {α : Type} [LinearOrder α] {lead xs ys : List α} (hxs : ¬ xs < lead)
    (hlt : xs < ys) (hys : lead <+: ys) : lead <+: xs := by
  induction lead generalizing xs ys with
  | nil => exact List.nil_prefix
  | cons a lead ih =>
    obtain ⟨rest, rfl⟩ := hys
    cases xs with
    | nil => exact absurd (List.nil_lt_cons a lead) hxs
    | cons x xs =>
      rw [List.cons_lt_cons_iff, not_or, not_and] at hxs
      rw [List.cons_append, List.cons_lt_cons_iff] at hlt
      rcases hlt with hlt | ⟨rfl, hlt⟩
      · exact absurd hlt hxs.1
      · rw [List.cons_prefix_cons]
        exact ⟨rfl, ih (hxs.2 rfl) hlt (List.prefix_append lead rest)⟩

lemma startsWith_of_between {name a b : String} (hname : ¬ a < name) (hlt : a < b)
    (hb : startsWith b name = true) : startsWith a name = true := by
  rw [startsWith, List.isPrefixOf_iff_prefix] at hb ⊢
  rw [String.lt_iff_toList_lt] at hname hlt
  exact isPrefix_of_between hname hlt hb

lemma covers_iff {name path : String} :
    covers name path = true ↔ path = name ∨ ∃ rest, path = name ++ "." ++ rest := by
  rw [covers, Bool.or_eq_true, beq_iff_eq, Text.startsWith_iff]

lemma startsWith_of_covers {name path : String} (h : covers name path = true) :
    startsWith path name = true := by
  rw [Text.startsWith_iff]
  rcases covers_iff.mp h with rfl | ⟨rest, rfl⟩
  · exact ⟨"", String.append_empty.symm⟩
  · exact ⟨"." ++ rest, String.append_assoc⟩

lemma not_lt_of_startsWith {name path : String} (h : startsWith path name = true) :
    ¬ path < name := by
  rw [startsWith, List.isPrefixOf_iff_prefix] at h
  rw [String.lt_iff_toList_lt]
  exact List.not_lt.mpr h.le

lemma covers_iff_bytes {name path : String} (h : startsWith path name = true) :
    covers name path = true ↔ (bytes path).length = (bytes name).length ∨
      (bytes path)[(bytes name).length]? = some 46 := by
  obtain ⟨rest, rfl⟩ := Text.startsWith_iff.mp h
  have hdot : startsWith (name ++ rest) (name ++ ".") = startsWith rest "." := by
    rw [Bool.eq_iff_iff, startsWith, startsWith, List.isPrefixOf_iff_prefix,
      List.isPrefixOf_iff_prefix, String.toList_append, String.toList_append,
      List.prefix_append_right_inj]
  have hend : name ++ rest = name ↔ (bytes (name ++ rest)).length = (bytes name).length := by
    constructor
    · intro heq
      rw [heq]
    · intro heq
      have hlead : bytes name <+: bytes (name ++ rest) := Text.startsWith_iff_bytes.mp h
      exact (Text.bytes_inj.mp (hlead.eq_of_length heq.symm)).symm
  rw [covers, Bool.or_eq_true, beq_iff_eq, hdot, hend, Text.getElem?_bytes]

namespace FieldTable

variable {m : FieldTable} {name : String}

/-- The scan as it reads bytes. It starts at the name and stops at the first path that does not
start with the name; in between, the length of a path or one byte of it decides. -/
def byteScan (m : FieldTable) (name : String) : List (String × DataType) :=
  ((m.entries.dropWhile fun e => bytes e.1 < bytes name).takeWhile fun e =>
    (bytes name).isPrefixOf (bytes e.1)).filter fun e =>
      (bytes e.1).length = (bytes name).length ∨ (bytes e.1)[(bytes name).length]? = some 46

lemma subtree_eq_byteScan : m.subtree name = m.byteScan name := by
  have hlead : (fun e : String × DataType => startsWith e.1 name) =
      fun e => (bytes name).isPrefixOf (bytes e.1) := by
    funext e
    rw [Bool.eq_iff_iff, Text.startsWith_iff_bytes, List.isPrefixOf_iff_prefix]
  simp only [subtree, byteScan, Text.bytes_lt_bytes, ← hlead]
  refine List.filter_congr fun e he => ?_
  have hstarts := List.mem_takeWhile_imp he
  rw [Bool.eq_iff_iff, covers_iff_bytes hstarts, decide_eq_true_iff]

lemma subtree_eq_filter : m.subtree name = m.entries.filter fun e => covers name e.1 := by
  have hout {path : String} (hs : startsWith path name = false) : covers name path = false := by
    by_contra hc
    rw [startsWith_of_covers (by simpa using hc)] at hs
    cases hs
  have hfront : ∀ e ∈ m.entries, decide (e.1 < name) = true → covers name e.1 = false := by
    intro e _ hlt
    apply hout
    by_contra hs
    exact not_lt_of_startsWith (by simpa using hs) (of_decide_eq_true hlt)
  have hdown : m.entries.Pairwise fun a b =>
      decide (b.1 < name) = true → decide (a.1 < name) = true := by
    refine m.ascending.imp fun {a b} hab hb => ?_
    exact decide_eq_true (String.lt_trans hab (of_decide_eq_true hb))
  have hback : (m.entries.dropWhile fun e => e.1 < name).Pairwise fun a b =>
      startsWith a.1 name = false → covers name b.1 = false := by
    have hasc := m.ascending.sublist (List.dropWhile_sublist fun e => decide (e.1 < name))
    -- what is left does not come before the name, so the name leads up to every path that has it
    refine hasc.imp_of_mem fun {a b} ha _ hab hs => hout ?_
    have hname : ¬ a.1 < name := of_decide_eq_false (eq_false_of_mem_dropWhile hdown ha)
    by_contra hb
    rw [startsWith_of_between hname hab (by simpa using hb)] at hs
    cases hs
  rw [subtree, filter_takeWhile (fun e _ => hout) hback, filter_dropWhile hfront]

lemma mem_subtree {path : String} {type : DataType} :
    (path, type) ∈ m.subtree name ↔ m.get? path = some type ∧ covers name path = true := by
  rw [subtree_eq_filter, List.mem_filter, Dict.mem_entries_iff]

lemma ascending_subtree (m : FieldTable) (name : String) : Entries.Ascending (m.subtree name) := by
  rw [subtree_eq_filter]
  exact m.ascending.sublist List.filter_sublist

lemma exactPath?_eq_some {path : String} :
    m.exactPath? name = some path ↔ ∃ front type back,
      m.subtree name = front ++ (path, type) :: back ∧ type.isExact = true ∧
      ∀ e ∈ front, e.2.isExact = false := by
  simp only [exactPath?, Option.map_eq_some_iff, List.find?_eq_some_iff_append]
  constructor
  · rintro ⟨⟨path, type⟩, ⟨hexact, front, back, hsplit, hfront⟩, rfl⟩
    exact ⟨front, type, back, hsplit, hexact, by simpa using hfront⟩
  · rintro ⟨front, type, back, hsplit, hexact, hfront⟩
    exact ⟨(path, type), ⟨hexact, front, back, hsplit, by simpa using hfront⟩, rfl⟩

lemma exactPath?_eq_none :
    m.exactPath? name = none ↔ ∀ e ∈ m.subtree name, e.2.isExact = false := by
  simp only [exactPath?, Option.map_eq_none_iff, List.find?_eq_none, Bool.not_eq_true]

structure ScansAll (m : FieldTable) (name : String) : Prop where
  bytewise : m.subtree name = m.byteScan name
  whole : m.subtree name = m.entries.filter fun e => covers name e.1
  mem : ∀ path type, (path, type) ∈ m.subtree name ↔
    m.get? path = some type ∧ (path = name ∨ ∃ rest, path = name ++ "." ++ rest)
  ascending : (m.subtree name).Pairwise fun a b => bytes a.1 < bytes b.1
  first : ∀ path, m.exactPath? name = some path ↔ ∃ front type back,
    m.subtree name = front ++ (path, type) :: back ∧ type.isExact = true ∧
    ∀ e ∈ front, e.2.isExact = false
  none : m.exactPath? name = none ↔ ∀ e ∈ m.subtree name, e.2.isExact = false
  itself : ∀ type, m.get? name = some type → type.isExact = true →
    m.exactPath? name = some name

theorem scansAll (m : FieldTable) (name : String) : m.ScansAll name := by
  refine ⟨subtree_eq_byteScan, subtree_eq_filter, ?_, ?_, fun path => exactPath?_eq_some,
    exactPath?_eq_none, ?_⟩
  · intro path type
    rw [mem_subtree, covers_iff]
  · exact (m.ascending_subtree name).imp fun hlt => Text.bytes_lt_bytes.mpr hlt
  · intro type htype hexact
    have hmem : (name, type) ∈ m.subtree name := mem_subtree.mpr ⟨htype, covers_iff.mpr (.inl rfl)⟩
    obtain ⟨front, back, hsplit⟩ := List.append_of_mem hmem
    refine exactPath?_eq_some.mpr ⟨front, type, back, hsplit, hexact, ?_⟩
    -- nothing can stand in front of the name itself
    rintro ⟨path, other⟩ hpath
    have hlt : path < name := by
      have hasc := m.ascending_subtree name
      rw [hsplit] at hasc
      exact (List.pairwise_append.mp hasc).2.2 _ hpath _ List.mem_cons_self
    have hcovers : covers name path = true :=
      (mem_subtree.mp (hsplit ▸ List.mem_append_left _ hpath)).2
    exact absurd hlt (not_lt_of_startsWith (startsWith_of_covers hcovers))

example : (FieldTable.ofPairs [("name", "text"), ("name-alt", "keyword"),
    ("name.keyword", "keyword"), ("names", "keyword")]).exactPath? "name" =
      some "name.keyword" := rfl

end FieldTable

end SearchCompiler
