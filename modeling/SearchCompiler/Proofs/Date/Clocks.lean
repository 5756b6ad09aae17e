import Mathlib.Data.List.Basic
import SearchCompiler.Proofs.Date.Calendar
import SearchCompiler.Proofs.Date.Scanning

/-! What a text says of the clock that it was written for, told from the text alone: the second
behind its second colon, and the offset that it ends in. A moment has just these. -/

namespace SearchCompiler.Moment

open Text (isBlank isDigit)

def behindColon (cs : List Char) : List Char :=
  (cs.dropWhile (· ≠ ':')).drop 1

/-- The number behind the second colon, or zero. -/
def writtenSecond (cs : List Char) : Nat :=
  let ds := (Text.skipBlanks (behindColon (behindColon cs))).takeWhile isDigit
  Text.number (ds.map Text.digit)

def signOf (c : Char) : Int :=
  if c = '+' then 1 else if c = '-' ∨ c = '\u2212' then -1 else 0

def writtenOffset (cs : List Char) : Int :=
  match cs.reverse with
  | m₂ :: m₁ :: ':' :: h₂ :: h₁ :: sign :: _ =>
    if [h₁, h₂, m₁, m₂].all isDigit then
      signOf sign * (Text.number [Text.digit h₁, Text.digit h₂] * 3600 +
        Text.number [Text.digit m₁, Text.digit m₂] * 60)
    else 0
  | _ => 0

section Seconds

variable {cs : List Char}

lemma ne_colon_of_not_mem (h : ':' ∉ cs) : ∀ c ∈ cs, decide (c ≠ ':') = true := by
  intro c hc
  rw [decide_eq_true_eq]
  rintro rfl
  exact h hc

lemma behindColon_append (h : ':' ∉ cs) (rest : List Char) :
    behindColon (cs ++ ':' :: rest) = rest := by
  rw [behindColon, List.dropWhile_append_of_pos (ne_colon_of_not_mem h),
    List.dropWhile_cons_of_neg (by simp)]
  rfl

lemma behindColon_of_not_mem (h : ':' ∉ cs) : behindColon cs = [] := by
  rw [behindColon, List.dropWhile_eq_nil_iff.mpr (ne_colon_of_not_mem h)]
  rfl

lemma writtenNumber_piece {n : Nat} {piece : List Char} (h : Piece n piece) {tail : List Char}
    (htail : ∀ c ∈ tail.head?, isDigit c = false) :
    Text.number (((Text.skipBlanks (piece ++ tail)).takeWhile isDigit).map Text.digit) = n := by
  obtain ⟨blanks, ds, rfl, hblanks, hds⟩ := h
  rw [List.append_assoc, skipBlanks_append hblanks, hds.skipBlanks_append,
    hds.takeWhile_append htail]
  exact hds.number_eq

lemma exists_behind_of_timed {minute second : Nat} {tail : List Char}
    (h : Timed minute second cs tail) :
    ∃ s, behindColon (behindColon cs) = s ++ tail ∧ Piece second s := by
  obtain ⟨front, m, s, rfl, hfront, hm, hs⟩ := h
  refine ⟨s, ?_, hs⟩
  rw [behindColon_append hfront, behindColon_append hm.colon_not_mem]

lemma writtenSecond_of_timed {minute second : Nat} {tail : List Char}
    (h : Timed minute second cs tail) (htail : ∀ c ∈ tail.head?, isDigit c = false) :
    writtenSecond cs = second := by
  obtain ⟨s, hbehind, hs⟩ := exists_behind_of_timed h
  rw [writtenSecond, hbehind]
  exact writtenNumber_piece hs htail

lemma writtenSecond_of_not_mem (h : ':' ∉ cs) : writtenSecond cs = 0 := by
  rw [writtenSecond, behindColon_of_not_mem h]
  rfl

end Seconds

section Offsets

variable {cs : List Char}

lemma writtenOffset_of_not_mem (h : ':' ∉ cs) : writtenOffset cs = 0 := by
  rw [writtenOffset]
  split
  · rename_i hcs
    have hmem : ':' ∈ cs.reverse := by simp [hcs]
    exact absurd (List.mem_reverse.mp hmem) h
  · rfl

lemma cons_eq_append_colon {c : Char} {rest blanks back : List Char}
    (hblanks : ∀ c ∈ blanks, isBlank c = true) (h : blanks ++ ':' :: back = c :: rest) :
    isBlank c = true ∨ c = ':' := by
  cases blanks with
  | nil => exact .inr (List.cons.inj h).1.symm
  | cons b bs =>
    obtain ⟨rfl, -⟩ := List.cons.inj h
    exact .inl (hblanks b List.mem_cons_self)

lemma not_isDigit_of_blank_or_colon {c : Char} (h : isBlank c = true ∨ c = ':') :
    isDigit c = false := by
  rcases h with h | rfl
  · by_contra hdigit
    rw [Text.isBlank_of_isDigit (Bool.eq_true_of_not_eq_false hdigit)] at h
    cases h
  · rfl

lemma signOf_of_blank_or_colon {c : Char} (h : isBlank c = true ∨ c = ':') : signOf c = 0 := by
  have hsigns : ∀ sign, isBlank sign = false → sign ≠ ':' → c ≠ sign := by
    rintro _ hblank hcolon rfl
    rcases h with h | h
    · rw [hblank] at h
      cases h
    · exact hcolon h
  have hplus := hsigns '+' (by decide) (by decide)
  have hhyphen := hsigns '-' (by decide) (by decide)
  have hminus := hsigns '\u2212' (by decide) (by decide)
  rw [signOf, if_neg hplus, if_neg (not_or.mpr ⟨hhyphen, hminus⟩)]

lemma Piece.signOf_eq_zero {n : Nat} {piece back rest : List Char} {h₂ h₁ sign : Char}
    (hpiece : Piece n piece)
    (h : piece.reverse ++ ':' :: back = h₂ :: h₁ :: sign :: rest) (hdigit : isDigit h₁ = true) :
    signOf sign = 0 := by
  obtain ⟨blanks, ds, rfl, hblanks, hds⟩ := hpiece
  rw [List.reverse_append, List.append_assoc] at h
  have hblanks' : ∀ c ∈ blanks.reverse, isBlank c = true := by
    simpa using hblanks
  obtain ⟨hne, hlength, -, -⟩ := hds
  match ds, hne, hlength with
  | [a], _, _ =>
    have hcons := (List.cons.inj h).2
    rw [not_isDigit_of_blank_or_colon (cons_eq_append_colon hblanks' hcons)] at hdigit
    cases hdigit
  | [a, b], _, _ =>
    have hcons := (List.cons.inj (List.cons.inj h).2).2
    exact signOf_of_blank_or_colon (cons_eq_append_colon hblanks' hcons)

lemma writtenOffset_of_timed {minute second : Nat} (h : Timed minute second cs []) :
    writtenOffset cs = 0 := by
  obtain ⟨front, m, s, rfl, hfront, hm, hs⟩ := h
  rw [writtenOffset]
  split
  · rename_i m₂ m₁ h₂ h₁ sign rest hcs
    split
    · rename_i hdigits
      simp only [List.all_cons, Bool.and_eq_true] at hdigits
      obtain ⟨hh₁, -, hm₁, hm₂, -⟩ := hdigits
      have hend : s.reverse ++ ':' :: (m.reverse ++ ':' :: front.reverse) =
          [m₂, m₁] ++ ':' :: (h₂ :: h₁ :: sign :: rest) := by
        simpa using hcs
      have hs' : ':' ∉ s.reverse := by simpa using hs.colon_not_mem
      have hminutes : ':' ∉ [m₂, m₁] :=
        colon_not_mem_of_digits (by simp [hm₁, hm₂])
      have hhours := congrArg behindColon hend
      rw [behindColon_append hs', behindColon_append hminutes] at hhours
      rw [hm.signOf_eq_zero hhours hh₁, Int.zero_mul]
    · rfl
  · rfl

lemma writtenOffset_append_singleton {c : Char} (h : isDigit c = false) (front : List Char) :
    writtenOffset (front ++ [c]) = 0 := by
  rw [writtenOffset, List.reverse_append, List.reverse_singleton, List.singleton_append]
  split
  · rename_i hcs
    obtain ⟨rfl, -⟩ := List.cons.inj hcs
    rw [if_neg]
    intro hdigits
    simp [h] at hdigits
  · rfl

lemma exists_of_scanOffsetSize {size : Int} (h : scanOffsetSize cs = some size) :
    ∃ h₁ h₂ m₁ m₂, cs = [h₁, h₂, ':', m₁, m₂] ∧
      [h₁, h₂, m₁, m₂].all isDigit = true ∧
      size = Text.number [Text.digit h₁, Text.digit h₂] * 3600 +
        Text.number [Text.digit m₁, Text.digit m₂] * 60 := by
  simp only [scanOffsetSize, Option.bind_eq_bind, Option.bind_eq_some_iff, Prod.exists] at h
  obtain ⟨hours, cs₁, hhours, cs₂, hcolon, minutes, cs₃, hminutes, h⟩ := h
  split at h
  · rename_i hend
    obtain ⟨hs, hhlength, rfl, hhs⟩ := exists_of_scanExactly (by decide) hhours
    obtain rfl := skip_eq_some.mp hcolon
    obtain ⟨ms, hmlength, rfl, hms⟩ := exists_of_scanExactly (by decide) hminutes
    obtain ⟨h₁, h₂, rfl⟩ := List.length_eq_two.mp hhlength
    obtain ⟨m₁, m₂, rfl⟩ := List.length_eq_two.mp hmlength
    obtain rfl := Option.some.inj h
    refine ⟨h₁, h₂, m₁, m₂, by simp [List.isEmpty_iff.mp hend.1], ?_, ?_⟩
    · rw [List.all_eq_true]
      intro c hc
      rcases List.mem_append.mp (show c ∈ [h₁, h₂] ++ [m₁, m₂] from hc) with hc | hc
      · exact hhs.isDigit c hc
      · exact hms.isDigit c hc
    · rw [← hhs.number_eq, ← hms.number_eq]
      rfl
  · cases h

lemma writtenOffset_signed {size : Int} (h : scanOffsetSize cs = some size) (front : List Char)
    (sign : Char) : writtenOffset (front ++ sign :: cs) = signOf sign * size := by
  obtain ⟨h₁, h₂, m₁, m₂, rfl, hdigits, rfl⟩ := exists_of_scanOffsetSize h
  have hreverse : (front ++ sign :: [h₁, h₂, ':', m₁, m₂]).reverse =
      m₂ :: m₁ :: ':' :: h₂ :: h₁ :: sign :: front.reverse := by simp
  rw [writtenOffset, hreverse]
  exact if_pos hdigits

lemma writtenOffset_append {zone : List Char} {offset : Int} (h : scanOffset zone = some offset)
    (front : List Char) : writtenOffset (front ++ zone) = offset := by
  unfold scanOffset at h
  split at h
  · obtain rfl := Option.some.inj h
    exact writtenOffset_append_singleton (by decide) front
  · obtain rfl := Option.some.inj h
    exact writtenOffset_append_singleton (by decide) front
  · rw [writtenOffset_signed h]
    exact Int.one_mul _
  · obtain ⟨size, hsize, rfl⟩ := Option.map_eq_some_iff.mp h
    rw [writtenOffset_signed hsize]
    exact Int.neg_one_mul _
  · obtain ⟨size, hsize, rfl⟩ := Option.map_eq_some_iff.mp h
    rw [writtenOffset_signed hsize]
    exact Int.neg_one_mul _
  · cases h

end Offsets

lemma exists_cons_of_scanOffset {zone : List Char} {offset : Int}
    (h : scanOffset zone = some offset) :
    ∃ c rest, zone = c :: rest ∧ isBlank c = false ∧ isDigit c = false := by
  unfold scanOffset at h
  split at h
  case h_6 => cases h
  all_goals exact ⟨_, _, rfl, by decide, by decide⟩

lemma ofText?_eq_some {cs : List Char} {m : Moment} (h : ofText? cs = some m) :
    ofTimestamp? cs = some m ∨ ofDateTime? cs = some m ∨ ofDate? cs = some m := by
  rw [ofText?] at h
  cases hstamp : ofTimestamp? cs with
  | some m' =>
    rw [hstamp] at h
    exact .inl h
  | none =>
    cases htime : ofDateTime? cs with
    | some m' =>
      rw [hstamp, htime] at h
      exact .inr (.inl h)
    | none =>
      rw [hstamp, htime] at h
      exact .inr (.inr h)

lemma exists_of_ofText? {cs : List Char} {m : Moment} (h : ofText? cs = some m) :
    ∃ p : Parts, p.moment? = some m ∧ p.nanos < 1000000000 ∧ p.offset = writtenOffset cs ∧
      p.second = writtenSecond cs := by
  rcases ofText?_eq_some h with h | h | h
  · obtain ⟨p, tail, zone, hp, hnanos, htimed, htail, hzone⟩ := exists_of_ofTimestamp? h
    have hend : ∀ c ∈ tail.head?, isDigit c = false := by
      rcases htail with rfl | ⟨fraction, rfl⟩
      · obtain ⟨c, rest, rfl, -, hdigit⟩ := exists_cons_of_scanOffset hzone
        simpa using hdigit
      · rintro c hc
        obtain rfl := Option.some.inj hc
        rfl
    refine ⟨p, hp, hnanos, ?_, (writtenSecond_of_timed htimed hend).symm⟩
    have hsuffix : zone <:+ cs := by
      obtain ⟨front, m, s, rfl, -⟩ := htimed
      rcases htail with rfl | ⟨fraction, rfl⟩
      · exact ⟨front ++ ':' :: (m ++ ':' :: s), by simp⟩
      · exact ⟨front ++ ':' :: (m ++ ':' :: (s ++ '.' :: fraction)), by simp⟩
    obtain ⟨front, rfl⟩ := hsuffix
    exact (writtenOffset_append hzone front).symm
  · obtain ⟨p, hp, hnanos, hoffset, htimed⟩ := exists_of_ofDateTime? h
    refine ⟨p, hp, by omega, ?_, ?_⟩
    · rw [hoffset, writtenOffset_of_timed htimed]
    · exact (writtenSecond_of_timed htimed (by simp)).symm
  · obtain ⟨hcolon, date, hdate⟩ := exists_of_ofDate? h
    have hnanos : 0 < 1000000000 := by decide
    exact ⟨_, hdate, hnanos, (writtenOffset_of_not_mem hcolon).symm,
      (writtenSecond_of_not_mem hcolon).symm⟩

namespace Parts

lemma of_moment? {p : Parts} {m : Moment} (h : p.moment? = some m) :
    p.date.isValid = true ∧ m.day = p.date ∧ m.offset = p.offset ∧
      m.nanos = p.nanos + if p.second = 60 then 1000000000 else 0 := by
  rw [moment?] at h
  split at h
  · rename_i hp
    obtain ⟨hvalid, hhour, hminute, hsecond⟩ := hp
    obtain rfl := Option.some.inj h
    refine ⟨hvalid, ?_, rfl, rfl⟩
    have hday : (p.date.number * 86400 + p.hour * 3600 + p.minute * 60 +
        (if p.second = 60 then 59 else p.second : Nat)) / 86400 = p.date.number := by
      split <;> omega
    rw [day, hday]
    exact CalendarDay.ofNumber_number (CalendarDay.isValid_iff.mp hvalid).2
  · cases h

end Parts

end SearchCompiler.Moment
