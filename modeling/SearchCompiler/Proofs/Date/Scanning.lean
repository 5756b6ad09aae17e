import Mathlib.Data.List.TakeWhile
import SearchCompiler.Date.Moment
import SearchCompiler.Proofs.Text.Digits

/-! What the scanners of dates take. A scanner gives back the rest of the text behind what it took,
so a text that is read is cut into the pieces that its numbers were read from. -/

namespace SearchCompiler.Moment

open Text (isBlank isDigit)

variable {cs rest : List Char} {n width : Nat}

structure Digits (width n : Nat) (ds : List Char) : Prop where
  ne_nil : ds ≠ []
  length_le : ds.length ≤ width
  isDigit : ∀ c ∈ ds, isDigit c = true
  number_eq : Text.number (ds.map Text.digit) = n

def Piece (n : Nat) (cs : List Char) : Prop :=
  ∃ blanks ds, cs = blanks ++ ds ∧ (∀ c ∈ blanks, isBlank c = true) ∧ Digits 2 n ds

lemma digits_of_ne_nil {ds : List Char} (hds : (cs.take width).takeWhile isDigit = ds)
    (hne : ds ≠ []) :
    cs = ds ++ cs.drop ds.length ∧ Digits width (Text.number (ds.map Text.digit)) ds := by
  subst hds
  have hlead : (cs.take width).takeWhile isDigit <+: cs :=
    (List.takeWhile_prefix _).trans (List.take_prefix width cs)
  refine ⟨(List.prefix_iff_eq_append.mp hlead).symm, hne, ?_, ?_, rfl⟩
  · exact (List.takeWhile_prefix _).length_le.trans (List.length_take_le width cs)
  · intro c hc
    exact List.mem_takeWhile_imp hc

lemma exists_of_scanDigits (h : scanDigits width cs = some (n, rest)) :
    ∃ ds, cs = ds ++ rest ∧ Digits width n ds := by
  rw [scanDigits] at h
  split at h
  · cases h
  · rename_i hne
    obtain ⟨rfl, rfl⟩ := Prod.mk.inj (Option.some.inj h)
    exact ⟨_, digits_of_ne_nil rfl (by simpa using hne)⟩

lemma exists_of_scanExactly (hwidth : width ≠ 0) (h : scanExactly width cs = some (n, rest)) :
    ∃ ds, ds.length = width ∧ cs = ds ++ rest ∧ Digits width n ds := by
  rw [scanExactly] at h
  split at h
  · rename_i hlength
    obtain ⟨rfl, rfl⟩ := Prod.mk.inj (Option.some.inj h)
    have hne : (cs.take width).takeWhile isDigit ≠ [] := by
      intro hnil
      rw [hnil] at hlength
      exact hwidth hlength.symm
    have hds := digits_of_ne_nil rfl hne
    rw [hlength] at hds
    exact ⟨_, hlength, hds⟩
  · cases h

lemma Digits.piece {ds : List Char} (h : Digits 2 n ds) : Piece n ds :=
  ⟨[], ds, rfl, List.forall_mem_nil _, h⟩

lemma skipBlanks_append {blanks : List Char} (h : ∀ c ∈ blanks, isBlank c = true)
    (rest : List Char) : Text.skipBlanks (blanks ++ rest) = Text.skipBlanks rest :=
  List.dropWhile_append_of_pos h

namespace Digits

variable {ds : List Char}

lemma skipBlanks_append (h : Digits width n ds) (rest : List Char) :
    Text.skipBlanks (ds ++ rest) = ds ++ rest := by
  obtain ⟨d, ds', rfl⟩ := List.exists_cons_of_ne_nil h.ne_nil
  have hd := Text.isBlank_of_isDigit (h.isDigit d List.mem_cons_self)
  exact List.dropWhile_cons_of_neg (by simp [hd])

lemma takeWhile_append (h : Digits width n ds) (hrest : ∀ c ∈ rest.head?, Text.isDigit c = false) :
    (ds ++ rest).takeWhile Text.isDigit = ds := by
  rw [List.takeWhile_append_of_pos h.isDigit]
  cases rest with
  | nil => exact List.append_nil ds
  | cons c rest =>
    rw [List.takeWhile_cons_of_neg (by simp [hrest c rfl]), List.append_nil]

end Digits

lemma exists_of_scanPadded (h : scanPadded cs = some (n, rest)) :
    ∃ piece, cs = piece ++ rest ∧ Piece n piece := by
  obtain ⟨ds, hcs, hds⟩ := exists_of_scanDigits h
  refine ⟨cs.takeWhile isBlank ++ ds, ?_, _, ds, rfl, fun c hc => List.mem_takeWhile_imp hc, hds⟩
  rw [List.append_assoc, ← hcs]
  exact List.takeWhile_append_dropWhile.symm

lemma skip_eq_some {c : Char} : skip c cs = some rest ↔ cs = c :: rest := by
  cases cs with
  | nil => simp [skip]
  | cons d ds =>
    rw [skip]
    by_cases hc : c = d
    · simp [hc]
    · simp [hc, Ne.symm hc]

lemma colon_not_mem_of_digits {ds : List Char} (h : ∀ c ∈ ds, isDigit c = true) : ':' ∉ ds :=
  fun hmem => absurd (h ':' hmem) (by decide)

lemma colon_not_mem_of_blanks {bs : List Char} (h : ∀ c ∈ bs, isBlank c = true) : ':' ∉ bs :=
  fun hmem => absurd (h ':' hmem) (by decide)

lemma Piece.colon_not_mem (h : Piece n cs) : ':' ∉ cs := by
  obtain ⟨blanks, ds, rfl, hblanks, hds⟩ := h
  rw [List.mem_append, not_or]
  exact ⟨colon_not_mem_of_blanks hblanks, colon_not_mem_of_digits hds.isDigit⟩

def ColonFree (cs rest : List Char) : Prop :=
  ∃ front, cs = front ++ rest ∧ ':' ∉ front

namespace ColonFree

variable {ds : List Char}

lemma trans (h : ColonFree cs ds) (h' : ColonFree ds rest) : ColonFree cs rest := by
  obtain ⟨front, rfl, hfront⟩ := h
  obtain ⟨front', rfl, hfront'⟩ := h'
  exact ⟨front ++ front', (List.append_assoc _ _ _).symm, by simp [hfront, hfront']⟩

lemma of_skipBlanks : ColonFree cs (Text.skipBlanks cs) :=
  ⟨cs.takeWhile isBlank, List.takeWhile_append_dropWhile.symm,
    colon_not_mem_of_blanks fun _ hc => List.mem_takeWhile_imp hc⟩

lemma of_skip {c : Char} (hc : ':' ≠ c) (h : skip c cs = some rest) : ColonFree cs rest :=
  ⟨[c], skip_eq_some.mp h, by simpa using hc⟩

lemma of_scanDigits (h : scanDigits width cs = some (n, rest)) : ColonFree cs rest := by
  obtain ⟨ds, rfl, hds⟩ := exists_of_scanDigits h
  exact ⟨ds, rfl, colon_not_mem_of_digits hds.isDigit⟩

lemma of_scanExactly (hwidth : width ≠ 0) (h : scanExactly width cs = some (n, rest)) :
    ColonFree cs rest := by
  obtain ⟨ds, -, rfl, hds⟩ := exists_of_scanExactly hwidth h
  exact ⟨ds, rfl, colon_not_mem_of_digits hds.isDigit⟩

lemma of_scanPadded (h : scanPadded cs = some (n, rest)) : ColonFree cs rest :=
  of_skipBlanks.trans (of_scanDigits h)

lemma of_scanYear {year : Int} (h : scanYear cs = some (year, rest)) : ColonFree cs rest := by
  refine of_skipBlanks.trans ?_
  rw [scanYear] at h
  split at h
  all_goals
    obtain ⟨⟨n, rest'⟩, hscan, heq⟩ := Option.map_eq_some_iff.mp h
    obtain ⟨-, rfl⟩ := Prod.mk.inj heq
  · rename_i hsign
    rw [hsign]
    exact .trans ⟨['-'], rfl, by decide⟩ (of_scanDigits hscan)
  · rename_i hsign
    rw [hsign]
    exact .trans ⟨['+'], rfl, by decide⟩ (of_scanDigits hscan)
  · exact of_scanDigits hscan

lemma of_scanDate {d : CalendarDay} (h : scanDate cs = some (d, rest)) : ColonFree cs rest := by
  simp only [scanDate, Option.bind_eq_bind, Option.bind_eq_some_iff, Prod.exists,
    Option.some.injEq, Prod.mk.injEq] at h
  obtain ⟨year, cs₁, hyear, cs₂, hdash, month, cs₃, hmonth, cs₄, hdash', day, cs₅, hday, -, rfl⟩ := h
  have hcs₁ := of_scanYear hyear
  have hcs₂ := hcs₁.trans (of_skip (by decide) hdash)
  have hcs₃ := hcs₂.trans (of_scanPadded hmonth)
  have hcs₄ := hcs₃.trans (of_skip (by decide) hdash')
  exact hcs₄.trans (of_scanPadded hday)

end ColonFree

def Timed (minute second : Nat) (cs tail : List Char) : Prop :=
  ∃ front m s, cs = front ++ ':' :: (m ++ ':' :: (s ++ tail)) ∧ ':' ∉ front ∧
    Piece minute m ∧ Piece second s

lemma Timed.colon_mem {minute second : Nat} {tail : List Char} (h : Timed minute second cs tail) :
    ':' ∈ cs := by
  obtain ⟨front, m, s, rfl, -⟩ := h
  simp

lemma exists_of_ofDate? {m : Moment} (h : ofDate? cs = some m) :
    ':' ∉ cs ∧ ∃ date, Parts.moment? { date } = some m := by
  simp only [ofDate?, Option.bind_eq_bind, Option.bind_eq_some_iff, Prod.exists] at h
  obtain ⟨date, rest, hdate, h⟩ := h
  split at h
  · rename_i hnil
    obtain ⟨front, rfl, hfront⟩ := ColonFree.of_scanDate hdate
    rw [List.isEmpty_iff.mp hnil, List.append_nil]
    exact ⟨hfront, date, h⟩
  · cases h

lemma exists_of_ofDateTime? {m : Moment} (h : ofDateTime? cs = some m) :
    ∃ p : Parts, p.moment? = some m ∧ p.nanos = 0 ∧ p.offset = 0 ∧
      Timed p.minute p.second cs [] := by
  simp only [ofDateTime?, Option.bind_eq_bind, Option.bind_eq_some_iff, Prod.exists] at h
  obtain ⟨date, cs₁, hdate, hour, cs₂, hhour, cs₃, hcolon, minute, cs₄, hminute, cs₅, hcolon',
    second, cs₆, hsecond, h⟩ := h
  split at h
  · rename_i hnil
    refine ⟨_, h, rfl, rfl, ?_⟩
    obtain ⟨front, rfl, hfront⟩ :=
      ((ColonFree.of_scanDate hdate).trans .of_skipBlanks).trans (.of_scanPadded hhour)
    obtain rfl := skip_eq_some.mp hcolon
    obtain ⟨m, rfl, hm⟩ := exists_of_scanPadded hminute
    obtain rfl := skip_eq_some.mp hcolon'
    obtain ⟨s, rfl, hs⟩ := exists_of_scanPadded hsecond
    rw [List.isEmpty_iff.mp hnil]
    exact ⟨front, m, s, rfl, hfront, hm, hs⟩
  · cases h

lemma nanosOf_lt {ds : List Nat} (h : ∀ d ∈ ds, d < 10) : nanosOf ds < 1000000000 := by
  have hlength : (ds.take 9).length ≤ 9 := List.length_take_le 9 ds
  have hrest : 9 - ds.length = 9 - (ds.take 9).length := by
    rw [List.length_take]
    omega
  have hlt : Text.number (ds.take 9) < 10 ^ (ds.take 9).length :=
    Text.number_lt fun d hd => h d (List.mem_of_mem_take hd)
  calc nanosOf ds = Text.number (ds.take 9) * 10 ^ (9 - (ds.take 9).length) := by
        rw [nanosOf, hrest]
        rfl
    _ < 10 ^ (ds.take 9).length * 10 ^ (9 - (ds.take 9).length) :=
        Nat.mul_lt_mul_of_pos_right hlt (Nat.pow_pos (by decide))
    _ = 1000000000 := by
        rw [← Nat.pow_add, Nat.add_sub_cancel' hlength]

lemma exists_of_scanNanos (h : scanNanos cs = some (n, rest)) :
    n < 1000000000 ∧ (cs = rest ∨ ∃ fraction, cs = '.' :: (fraction ++ rest)) := by
  unfold scanNanos at h
  split at h
  · rename_i cs
    dsimp only at h
    split at h
    · cases h
    · obtain ⟨rfl, rfl⟩ := Prod.mk.inj (Option.some.inj h)
      refine ⟨nanosOf_lt ?_, .inr ⟨cs.takeWhile isDigit, ?_⟩⟩
      · intro d hd
        obtain ⟨c, hc, rfl⟩ := List.mem_map.mp hd
        exact Text.digit_lt (List.mem_takeWhile_imp hc)
      · rw [List.takeWhile_append_dropWhile]
  · obtain ⟨rfl, rfl⟩ := Prod.mk.inj (Option.some.inj h)
    exact ⟨by decide, .inl rfl⟩

lemma exists_of_skipSeparator (h : skipSeparator cs = some rest) : ColonFree cs rest := by
  unfold skipSeparator at h
  split at h
  · obtain rfl := Option.some.inj h
    exact ⟨['T'], rfl, by decide⟩
  · obtain rfl := Option.some.inj h
    exact ⟨['t'], rfl, by decide⟩
  · obtain rfl := Option.some.inj h
    exact ⟨[' '], rfl, by decide⟩
  · cases h

lemma exists_of_ofTimestamp? {m : Moment} (h : ofTimestamp? cs = some m) :
    ∃ (p : Parts) (tail zone : List Char), p.moment? = some m ∧ p.nanos < 1000000000 ∧
      Timed p.minute p.second cs tail ∧ (tail = zone ∨ ∃ fraction, tail = '.' :: (fraction ++ zone)) ∧
      scanOffset zone = some p.offset := by
  simp only [ofTimestamp?, Option.bind_eq_bind, Option.bind_eq_some_iff, Prod.exists] at h
  obtain ⟨year, cs₁, hyear, cs₂, hdash, month, cs₃, hmonth, cs₄, hdash', day, cs₅, hday, cs₆, hsep,
    hour, cs₇, hhour, cs₈, hcolon, minute, cs₉, hminute, cs₁₀, hcolon', second, tail, hsecond,
    nanos, zone, hnanos, offset, hoffset, h⟩ := h
  obtain ⟨hlt, htail⟩ := exists_of_scanNanos hnanos
  refine ⟨_, tail, zone, h, hlt, ?_, htail, hoffset⟩
  have hcs₂ := (ColonFree.of_scanExactly (by decide) hyear).trans (.of_skip (by decide) hdash)
  have hcs₄ := (hcs₂.trans (.of_scanExactly (by decide) hmonth)).trans (.of_skip (by decide) hdash')
  have hcs₆ := (hcs₄.trans (.of_scanExactly (by decide) hday)).trans (exists_of_skipSeparator hsep)
  obtain ⟨front, rfl, hfront⟩ := hcs₆.trans (.of_scanExactly (by decide) hhour)
  obtain rfl := skip_eq_some.mp hcolon
  obtain ⟨m, -, rfl, hm⟩ := exists_of_scanExactly (by decide) hminute
  obtain rfl := skip_eq_some.mp hcolon'
  obtain ⟨s, -, rfl, hs⟩ := exists_of_scanExactly (by decide) hsecond
  exact ⟨front, m, s, rfl, hfront, hm.piece, hs.piece⟩

end SearchCompiler.Moment
