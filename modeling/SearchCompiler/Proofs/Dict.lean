import Mathlib.Tactic.Common
import SearchCompiler.Dict

/-! Tables with the same keys, what is left when a key is erased, what a table is made of when
every key is written once, and which writes do not show. -/

namespace SearchCompiler

namespace Entries

variable {α : Type}

lemma hasKey_congr {ms ms' : List (String × α)} (h : ms.map Prod.fst = ms'.map Prod.fst)
    (key : String) : hasKey key ms = hasKey key ms' := by
  induction ms generalizing ms' with
  | nil =>
    obtain rfl := List.map_eq_nil_iff.mp h.symm
    rfl
  | cons m ms ih =>
    obtain ⟨m', ms', rfl, hm, hms⟩ := List.map_eq_cons_iff.mp h.symm
    simp only [hasKey, get?, hm]
    by_cases hk : key = m.1
    · simp [hk]
    · simp only [hk, if_false]
      exact ih hms.symm

lemma keys_insert_congr {β : Type} {ms : List (String × α)} {ms' : List (String × β)}
    (h : ms.map Prod.fst = ms'.map Prod.fst) (key : String) (value : α) (value' : β) :
    (insert key value ms).map Prod.fst = (insert key value' ms').map Prod.fst := by
  induction ms generalizing ms' with
  | nil =>
    obtain rfl := List.map_eq_nil_iff.mp h.symm
    rfl
  | cons m ms ih =>
    obtain ⟨m', ms', rfl, hm, hms⟩ := List.map_eq_cons_iff.mp h.symm
    simp only [insert, hm]
    split
    · simp [hms]
    · split
      · simp [hms]
      · simp [ih hms.symm]

lemma get?_erase_self (key : String) (ms : List (String × α)) : get? key (erase key ms) = none := by
  induction ms with
  | nil => rfl
  | cons m ms ih =>
    rw [erase, List.filter_cons]
    split
    · rename_i hm
      have hne : key ≠ m.1 := by
        rintro rfl
        simp at hm
      rw [get?, if_neg hne]
      exact ih
    · exact ih

lemma get?_erase_of_ne {key other : String} (h : other ≠ key) (ms : List (String × α)) :
    get? other (erase key ms) = get? other ms := by
  induction ms with
  | nil => rfl
  | cons m ms ih =>
    rw [erase, List.filter_cons]
    split
    · rw [get?, get?]
      split
      · rfl
      · exact ih
    · rename_i hm
      have hkey : m.1 = key := by simpa using hm
      rw [get?, if_neg (hkey ▸ h)]
      exact ih

lemma erase_of_not_mem {key : String} {ms : List (String × α)} (h : key ∉ ms.map Prod.fst) :
    erase key ms = ms := by
  rw [erase, List.filter_eq_self]
  intro m hm
  rw [decide_eq_true_eq]
  rintro rfl
  exact h (List.mem_map_of_mem hm)

lemma erase_insert {key : String} {ms : List (String × α)} (h : key ∉ ms.map Prod.fst) (value : α) :
    erase key (insert key value ms) = ms := by
  induction ms with
  | nil => simp [insert, erase]
  | cons m ms ih =>
    obtain ⟨hm, hms⟩ := List.ne_and_not_mem_of_not_mem_cons h
    rw [insert, if_neg hm]
    split
    · rw [erase, List.filter_cons_of_neg (by simp)]
      exact erase_of_not_mem h
    · rw [erase, List.filter_cons_of_pos (by simpa using hm.symm)]
      exact congrArg (m :: ·) (ih hms)

lemma insert_inj {key : String} {ms ms' : List (String × α)} (h : key ∉ ms.map Prod.fst)
    (h' : key ∉ ms'.map Prod.fst) {value value' : α} :
    insert key value ms = insert key value' ms' ↔ value = value' ∧ ms = ms' := by
  constructor
  · intro heq
    have hvalue := congrArg (get? key) heq
    rw [get?_insert_self, get?_insert_self] at hvalue
    have hrest := congrArg (erase key) heq
    rw [erase_insert h, erase_insert h'] at hrest
    exact ⟨Option.some.inj hvalue, hrest⟩
  · rintro ⟨rfl, rfl⟩
    rfl

lemma mem_of_get? {key : String} {value : α} {ms : List (String × α)}
    (h : get? key ms = some value) : (key, value) ∈ ms := by
  induction ms with
  | nil => cases h
  | cons m ms ih =>
    rw [get?] at h
    split at h
    · rename_i hk
      obtain rfl := Option.some.inj h
      exact List.mem_cons.mpr (.inl (by rw [hk]))
    · exact List.mem_cons_of_mem _ (ih h)

lemma hasKey_iff {key : String} {ms : List (String × α)} :
    hasKey key ms = true ↔ key ∈ ms.map Prod.fst := by
  induction ms with
  | nil => simp [hasKey, get?]
  | cons m ms ih =>
    rw [hasKey] at ih
    rw [hasKey, get?, List.map_cons, List.mem_cons, ← ih]
    by_cases hk : key = m.1 <;> simp [hk]

lemma perm_insert {key : String} {ms : List (String × α)} (value : α)
    (h : key ∉ ms.map Prod.fst) : (insert key value ms).Perm ((key, value) :: ms) := by
  induction ms with
  | nil => exact .refl _
  | cons m ms ih =>
    simp only [List.map_cons, List.mem_cons, not_or] at h
    rw [insert, if_neg h.1]
    split
    · exact .refl _
    · exact ((ih h.2).cons m).trans (.swap _ _ _)

lemma perm_insertAll {additions ms : List (String × α)}
    (h : (additions.map Prod.fst ++ ms.map Prod.fst).Nodup) :
    (insertAll additions ms).Perm (additions ++ ms) := by
  induction additions generalizing ms with
  | nil => exact .refl _
  | cons a as ih =>
    obtain ⟨hnot, hnodup⟩ := List.nodup_cons.mp h
    have hfirst : (insert a.1 a.2 ms).Perm (a :: ms) :=
      perm_insert a.2 fun hmem => hnot (List.mem_append_right _ hmem)
    have hkeys : (as.map Prod.fst ++ (insert a.1 a.2 ms).map Prod.fst).Perm
        (a.1 :: (as.map Prod.fst ++ ms.map Prod.fst)) :=
      ((hfirst.map Prod.fst).append_left _).trans List.perm_middle
    have hrest : (insertAll as (insert a.1 a.2 ms)).Perm (as ++ insert a.1 a.2 ms) :=
      ih (hkeys.nodup_iff.mpr h)
    exact hrest.trans ((hfirst.append_left as).trans List.perm_middle)

lemma ascending_insertAll (additions : List (String × α)) {ms : List (String × α)}
    (h : Ascending ms) : Ascending (insertAll additions ms) := by
  induction additions generalizing ms with
  | nil => exact h
  | cons a as ih => exact ih (ascending_insert a.1 a.2 h)

lemma nodup_keys {ms : List (String × α)} (h : Ascending ms) : (ms.map Prod.fst).Nodup := by
  rw [List.Nodup, List.pairwise_map]
  refine h.imp fun {a b} hlt heq => ?_
  rw [heq] at hlt
  exact String.lt_irrefl _ hlt

lemma get?_of_not_mem {name : String} {ms : List (String × α)} (h : name ∉ ms.map Prod.fst) :
    get? name ms = none := by
  rw [← hasKey_iff, hasKey] at h
  simpa using h

lemma get?_append (name : String) (ms ms' : List (String × α)) :
    get? name (ms ++ ms') = (get? name ms).or (get? name ms') := by
  induction ms with
  | nil => rfl
  | cons m ms ih =>
    rw [List.cons_append, get?, get?]
    split
    · rfl
    · exact ih

lemma get?_append_of_not_mem {name : String} {ms : List (String × α)}
    (h : name ∉ ms.map Prod.fst) (ms' : List (String × α)) :
    get? name (ms ++ ms') = get? name ms' := by
  rw [get?_append, get?_of_not_mem h, Option.none_or]

lemma get?_insert (key : String) (value : α) (ms : List (String × α)) (name : String) :
    get? name (insert key value ms) = get? name ((key, value) :: ms) := by
  rw [get?]
  split
  · rename_i hname
    rw [hname, get?_insert_self]
  · rename_i hname
    exact get?_insert_of_ne value ms hname

lemma get?_of_mem {key : String} {value : α} {ms : List (String × α)} (h : Ascending ms)
    (hm : (key, value) ∈ ms) : get? key ms = some value := by
  induction ms with
  | nil => cases hm
  | cons m ms ih =>
    obtain ⟨hlt, hms⟩ := List.pairwise_cons.mp h
    rw [get?]
    rcases List.mem_cons.mp hm with rfl | hm
    · exact if_pos rfl
    · have hne : key ≠ m.1 := by
        rintro rfl
        exact String.lt_irrefl _ (hlt (m.1, value) hm)
      rw [if_neg hne]
      exact ih hms hm

lemma get?_insertAll (name : String) (additions ms : List (String × α)) :
    get? name (insertAll additions ms) =
      (get? name additions.reverse).or (get? name ms) := by
  induction additions generalizing ms with
  | nil => rfl
  | cons a as ih =>
    have hstep : insertAll (a :: as) ms = insertAll as (insert a.1 a.2 ms) := rfl
    have hfront : get? name ((a.1, a.2) :: ms) = (get? name [a]).or (get? name ms) :=
      get?_append name [a] ms
    rw [hstep, ih, get?_insert, hfront, List.reverse_cons, get?_append, Option.or_assoc]

lemma get?_eq_some_iff_append {name : String} {value : α} {ms : List (String × α)} :
    get? name ms = some value ↔
      ∃ front back, ms = front ++ (name, value) :: back ∧ name ∉ front.map Prod.fst := by
  constructor
  · intro h
    induction ms with
    | nil => cases h
    | cons m ms ih =>
      rw [get?] at h
      split at h
      · rename_i hname
        obtain rfl := Option.some.inj h
        exact ⟨[], ms, by rw [hname, List.nil_append], List.not_mem_nil⟩
      · rename_i hname
        obtain ⟨front, back, rfl, hfront⟩ := ih h
        exact ⟨m :: front, back, rfl, by simp [hname, hfront]⟩
  · rintro ⟨front, back, rfl, hfront⟩
    rw [get?_append_of_not_mem hfront, get?, if_pos rfl]

lemma get?_reverse_eq_some_iff {name : String} {value : α} {ms : List (String × α)} :
    get? name ms.reverse = some value ↔
      ∃ front back, ms = front ++ (name, value) :: back ∧ name ∉ back.map Prod.fst := by
  rw [get?_eq_some_iff_append]
  constructor
  · rintro ⟨front, back, hms, hfront⟩
    refine ⟨back.reverse, front.reverse, ?_, by simpa using hfront⟩
    simpa using congrArg List.reverse hms
  · rintro ⟨front, back, rfl, hback⟩
    exact ⟨back.reverse, front.reverse, by simp, by simpa using hback⟩

lemma insert_of_lt {key : String} {ms : List (String × α)} (value : α)
    (h : ∀ e ∈ ms, e.1 < key) : insert key value ms = ms ++ [(key, value)] := by
  induction ms with
  | nil => rfl
  | cons m ms ih =>
    obtain ⟨hm, hms⟩ := List.forall_mem_cons.mp h
    have hne : key ≠ m.1 := by
      rintro rfl
      exact String.lt_irrefl _ hm
    rw [insert, if_neg hne, if_neg (String.lt_asymm hm), ih hms, List.cons_append]

lemma insertAll_of_ascending {ms additions : List (String × α)} (h : Ascending (ms ++ additions)) :
    insertAll additions ms = ms ++ additions := by
  induction additions generalizing ms with
  | nil => exact (List.append_nil ms).symm
  | cons a as ih =>
    have hlt : ∀ e ∈ ms, e.1 < a.1 := by
      intro e he
      exact (List.pairwise_append.mp h).2.2 e he a List.mem_cons_self
    have hstep : insertAll (a :: as) ms = insertAll as (ms ++ [a]) := by
      change insertAll as (insert a.1 a.2 ms) = _
      rw [insert_of_lt a.2 hlt]
    rw [hstep, ih (by simpa using h), List.append_assoc, List.singleton_append]

lemma insert_insert_self (key : String) (value value' : α) (ms : List (String × α)) :
    insert key value' (insert key value ms) = insert key value' ms := by
  induction ms with
  | nil => simp [insert]
  | cons m ms ih =>
    rw [insert, insert]
    split
    · rw [insert, if_pos rfl]
    · rename_i hne
      split
      · rw [insert, if_pos rfl]
      · rename_i hlt
        rw [insert, if_neg hne, if_neg hlt, ih]

lemma insert_comm {key other : String} (h : key ≠ other) (value value' : α)
    (ms : List (String × α)) :
    insert key value (insert other value' ms) = insert other value' (insert key value ms) := by
  wlog hlt : key < other generalizing key other value value'
  · have hgt : other < key := Std.lt_of_le_of_ne (Std.not_lt.mp hlt) h.symm
    exact (this h.symm value' value hgt).symm
  have hnlt : ¬ other < key := String.lt_asymm hlt
  induction ms with
  | nil => simp [insert, h, h.symm, hlt, hnlt]
  | cons m ms ih =>
    obtain ⟨k, v⟩ := m
    rcases Std.lt_trichotomy k key with hk | rfl | hk
    · have hko : k < other := String.lt_trans hk hlt
      simp only [insert, (String.ne_of_lt hk).symm, (String.ne_of_lt hko).symm,
        String.lt_asymm hk, String.lt_asymm hko, if_false, ih]
    · simp only [insert, h.symm, hnlt, if_false, if_true]
    · rcases Std.lt_trichotomy k other with ho | rfl | ho
      · simp only [insert, String.ne_of_lt hk, (String.ne_of_lt ho).symm, hk,
          String.lt_asymm ho, h.symm, hnlt, if_false, if_true]
      · simp only [insert, h, h.symm, hk, hnlt, if_false, if_true]
      · simp only [insert, String.ne_of_lt hk, String.ne_of_lt ho, hk, ho, hlt, h, h.symm, hnlt,
          if_false, if_true]

lemma insertAll_cons (m : String × α) (as ms : List (String × α)) :
    insertAll (m :: as) ms = insertAll as (insert m.1 m.2 ms) := rfl

lemma insertAll_append (as bs ms : List (String × α)) :
    insertAll (as ++ bs) ms = insertAll bs (insertAll as ms) := List.foldl_append

lemma insertAll_insert {key : String} {as : List (String × α)} (h : key ∈ as.map Prod.fst)
    (value : α) (ms : List (String × α)) :
    insertAll as (insert key value ms) = insertAll as ms := by
  induction as generalizing ms with
  | nil => cases h
  | cons a as ih =>
    rw [insertAll_cons, insertAll_cons]
    by_cases ha : key = a.1
    · rw [ha, insert_insert_self]
    · have hkey : key ∈ as.map Prod.fst := (List.mem_cons.mp h).resolve_left ha
      rw [insert_comm (Ne.symm ha), ih hkey]

lemma insertAll_insertAll {as bs : List (String × α)} (h : as.map Prod.fst ⊆ bs.map Prod.fst)
    (ms : List (String × α)) : insertAll bs (insertAll as ms) = insertAll bs ms := by
  induction as generalizing ms with
  | nil => rfl
  | cons a as ih =>
    obtain ⟨ha, has⟩ := List.cons_subset.mp h
    rw [insertAll_cons, ih has, insertAll_insert ha]

end Entries

namespace Dict

variable {α : Type}

lemma get?_erase_self (d : Dict α) (key : String) : (d.erase key).get? key = none :=
  Entries.get?_erase_self key d.entries

lemma get?_erase_of_ne (d : Dict α) {key other : String} (h : other ≠ key) :
    (d.erase key).get? other = d.get? other :=
  Entries.get?_erase_of_ne h d.entries

lemma get?_insert (d : Dict α) (key : String) (value : α) (name : String) :
    (d.insert key value).get? name = if name = key then some value else d.get? name :=
  Entries.get?_insert key value d.entries name

lemma mem_entries_iff {d : Dict α} {key : String} {value : α} :
    (key, value) ∈ d.entries ↔ d.get? key = some value :=
  ⟨Entries.get?_of_mem d.ascending, Entries.mem_of_get?⟩

lemma entries_foldl_insert (additions : List (String × α)) (d : Dict α) :
    (additions.foldl (fun d e => d.insert e.1 e.2) d).entries =
      Entries.insertAll additions d.entries := by
  induction additions generalizing d with
  | nil => rfl
  | cons a as ih => exact ih _

lemma eq_of_entries {d d' : Dict α} (h : d.entries = d'.entries) : d = d' := by
  obtain ⟨entries, ascending⟩ := d
  obtain rfl : entries = d'.entries := h
  rfl

lemma ofList_entries (d : Dict α) : ofList d.entries = d := by
  apply eq_of_entries
  rw [ofList, entries_foldl_insert]
  exact Entries.insertAll_of_ascending d.ascending

end Dict

end SearchCompiler
