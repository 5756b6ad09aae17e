import SearchCompiler.Proofs.Date.Forms

/-! The printed day. A day is printed in a text that is read as a date, with as many digits and the
sign that its year needs, and gives the day back; every date value is rounded to such a day. -/

namespace SearchCompiler

open Text (isBlank isDigit padded)

namespace Moment

variable {n width : Nat} {rest : List Char}

lemma digits_padded {places : Nat} (h : (padded places n).toList.length ≤ width) :
    Digits width n (padded places n).toList :=
  ⟨Text.padded_ne_nil places n, h, fun _ hc => Text.isDigit_of_mem_padded hc,
    Text.number_padded places n⟩

lemma Parts.moment?_date {d : CalendarDay} (h : d.isValid = true) :
    Parts.moment? { date := d } = some ⟨d.number * 86400, 0, 0⟩ := by
  have hparts : d.isValid = true ∧ 0 < 24 ∧ 0 < 60 ∧ 0 ≤ 60 := ⟨h, by decide⟩
  rw [Parts.moment?, if_pos hparts]
  simp

lemma scanDigits_append {ds : List Char} (h : Digits width n ds)
    (hend : ds.length = width ∨ ∀ c ∈ rest.head?, isDigit c = false) :
    scanDigits width (ds ++ rest) = some (n, rest) := by
  have htake : (ds ++ rest).take width = ds ++ rest.take (width - ds.length) := by
    rw [List.take_append, List.take_of_length_le h.length_le]
  have hrest : ∀ c ∈ (rest.take (width - ds.length)).head?, isDigit c = false := by
    rcases hend with hlength | hend
    · simp [hlength]
    · intro c hc
      rw [List.head?_take] at hc
      split at hc
      · cases hc
      · exact hend c hc
  have hne : ds.isEmpty = false := List.isEmpty_eq_false_iff.mpr h.ne_nil
  rw [scanDigits, htake, h.takeWhile_append hrest, hne, h.number_eq, List.drop_left]
  rfl

lemma scanPadded_padded (h : n < 100) (rest : List Char) :
    scanPadded ((padded 2 n).toList ++ rest) = some (n, rest) := by
  have hlength : (padded 2 n).toList.length = 2 := Text.length_padded (by decide) h
  have hdigits := digits_padded hlength.le
  rw [scanPadded, hdigits.skipBlanks_append]
  exact scanDigits_append hdigits (.inl hlength)

lemma scanYear_digits {ds : List Char} (h : Digits 4 n ds)
    (hend : ds.length = 4 ∨ ∀ c ∈ rest.head?, isDigit c = false) :
    scanYear (ds ++ rest) = some ((n : Int), rest) := by
  rw [scanYear, h.skipBlanks_append]
  have hfirst : ∀ c cs, ds ++ rest = c :: cs → isDigit c = true := by
    intro c cs hcs
    obtain ⟨d, ds', rfl⟩ := List.exists_cons_of_ne_nil h.ne_nil
    obtain ⟨rfl, -⟩ := List.cons.inj hcs
    exact h.isDigit d List.mem_cons_self
  split
  · rename_i hcs
    exact absurd (hfirst _ _ hcs) (by decide)
  · rename_i hcs
    exact absurd (hfirst _ _ hcs) (by decide)
  · rw [scanDigits_append h hend]
    rfl

lemma scanYear_signed {ds : List Char} (h : Digits ds.length n ds)
    (hrest : ∀ c ∈ rest.head?, isDigit c = false) :
    scanYear ('-' :: (ds ++ rest)) = some (-(n : Int), rest) ∧
      scanYear ('+' :: (ds ++ rest)) = some ((n : Int), rest) := by
  have hscan : scanDigits (ds ++ rest).length (ds ++ rest) = some (n, rest) := by
    apply scanDigits_append ⟨h.ne_nil, ?_, h.isDigit, h.number_eq⟩ (.inr hrest)
    rw [List.length_append]
    exact Nat.le_add_right _ _
  have hminus : Text.skipBlanks ('-' :: (ds ++ rest)) = '-' :: (ds ++ rest) := rfl
  have hplus : Text.skipBlanks ('+' :: (ds ++ rest)) = '+' :: (ds ++ rest) := rfl
  constructor
  · simp only [scanYear, hminus, hscan]
    rfl
  · simp only [scanYear, hplus, hscan]
    rfl

lemma scanYear_writeYear (year : Int) (hrest : ∀ c ∈ rest.head?, isDigit c = false) :
    scanYear ((CalendarDay.writeYear year).toList ++ rest) = some (year, rest) := by
  rw [CalendarDay.writeYear]
  split
  · rename_i hyear
    have hlength : (padded 4 year.toNat).toList.length = 4 :=
      Text.length_padded (by decide) (by omega)
    rw [scanYear_digits (digits_padded hlength.le) (.inl hlength), Int.toNat_of_nonneg hyear.1]
  · rename_i hyear
    have hdigits : Digits (padded 4 year.natAbs).toList.length year.natAbs
        (padded 4 year.natAbs).toList := digits_padded le_rfl
    obtain ⟨hminus, hplus⟩ := scanYear_signed hdigits hrest
    rw [String.toList_append]
    split
    · have hvalue : -(year.natAbs : Int) = year := by omega
      exact hminus.trans (by rw [hvalue])
    · have hvalue : (year.natAbs : Int) = year := by omega
      exact hplus.trans (by rw [hvalue])

lemma scanDate_write {d : CalendarDay} (h : d.IsProper) :
    scanDate d.write.toList = some (d, []) := by
  have hmonth : d.month < 100 := h.month_le.trans_lt (by decide)
  have hday : d.day < 100 := by
    have hlength := d.monthLength_le
    have hle := h.day_le
    omega
  have htext : d.write.toList = (CalendarDay.writeYear d.year).toList ++
      '-' :: ((padded 2 d.month).toList ++ '-' :: ((padded 2 d.day).toList ++ [])) := by
    simp [CalendarDay.write, String.toList_append]
  rw [htext, scanDate, scanYear_writeYear d.year (by simp [isDigit])]
  simp only [Option.bind_eq_bind, Option.bind_some, skip, if_true, scanPadded_padded hmonth,
    scanPadded_padded hday]

lemma ofDate?_write {d : CalendarDay} (h : d.isValid = true) :
    ofDate? d.write.toList = some ⟨d.number * 86400, 0, 0⟩ := by
  rw [ofDate?, scanDate_write (CalendarDay.isValid_iff.mp h).2]
  exact Parts.moment?_date h

lemma ofText?_write {d : CalendarDay} (h : d.isValid = true) :
    ofText? d.write.toList = some ⟨d.number * 86400, 0, 0⟩ := by
  have hread : Form.date.read? d.write.toList = some ⟨d.number * 86400, 0, 0⟩ := ofDate?_write h
  rw [ofText?_eq_read?, ← Form.eq_writtenForm hread, hread]

end Moment

namespace CalendarDay

lemma isBlank_of_mem_writeYear {year : Int} {c : Char} (h : c ∈ (writeYear year).toList) :
    isBlank c = false := by
  rw [writeYear] at h
  split at h
  · exact Text.isBlank_of_isDigit (Text.isDigit_of_mem_padded h)
  · rw [String.toList_append, List.mem_append] at h
    rcases h with h | h
    · split at h
      · obtain rfl := List.mem_singleton.mp h
        rfl
      · obtain rfl := List.mem_singleton.mp h
        rfl
    · exact Text.isBlank_of_isDigit (Text.isDigit_of_mem_padded h)

lemma isBlank_of_mem_write {d : CalendarDay} {c : Char} (h : c ∈ d.write.toList) :
    isBlank c = false := by
  simp only [write, String.toList_append, List.mem_append] at h
  rcases h with (((h | h) | h) | h) | h
  · exact isBlank_of_mem_writeYear h
  · obtain rfl := List.mem_singleton.mp h
    rfl
  · exact Text.isBlank_of_isDigit (Text.isDigit_of_mem_padded h)
  · obtain rfl := List.mem_singleton.mp h
    rfl
  · exact Text.isBlank_of_isDigit (Text.isDigit_of_mem_padded h)

lemma trim_write (d : CalendarDay) : Text.trim d.write = d.write := by
  have hskip : ∀ cs : List Char, (∀ c ∈ cs, isBlank c = false) → Text.skipBlanks cs = cs := by
    intro cs hcs
    cases cs with
    | nil => rfl
    | cons c cs => exact List.dropWhile_cons_of_neg (by simp [hcs c List.mem_cons_self])
  have hblank : ∀ c ∈ d.write.toList, isBlank c = false := fun c hc => isBlank_of_mem_write hc
  rw [Text.trim, Text.trimmed, hskip _ hblank, hskip _ (by simpa using hblank),
    List.reverse_reverse, String.ofList_toList]

end CalendarDay

namespace Json

variable {v : Json} {m : Moment}

lemma toMoment_eq_ok (h : v.toMoment = .ok m) :
    (∃ s, v = .string s ∧ Moment.ofText? (Text.trim s).toList = some m) ∨
      ∃ i, v = .int i ∧ Moment.ofMillis? i = some m := by
  unfold toMoment at h
  split at h
  · dsimp only at h
    split at h
    · rename_i s _ m' hm
      obtain rfl := Except.ok.inj h
      exact .inl ⟨s, rfl, hm⟩
    · cases h
  · split at h
    · rename_i i
      split at h
      · rename_i m' hm
        obtain rfl := Except.ok.inj h
        exact .inr ⟨i, rfl, hm⟩
      · cases h
    · cases h
  · cases h

lemma isValid_day (h : v.toMoment = .ok m) : m.day.isValid = true := by
  rcases toMoment_eq_ok h with ⟨s, -, hs⟩ | ⟨i, -, hi⟩
  · obtain ⟨p, hp, -⟩ := Moment.exists_of_ofText? hs
    obtain ⟨hvalid, hday, -⟩ := Moment.Parts.of_moment? hp
    rw [hday]
    exact hvalid
  · rw [Moment.ofMillis?] at hi
    split at hi
    · rename_i hyears
      obtain rfl := Option.some.inj hi
      exact CalendarDay.isValid_iff.mpr ⟨hyears, CalendarDay.isProper_ofNumber _⟩
    · cases hi

lemma toDayExpression_eq_ok {text : String} (h : v.toDayExpression = .ok text) :
    ∃ m, v.toMoment = .ok m ∧ text = m.day.write ++ "||/d" := by
  rw [toDayExpression] at h
  cases hm : v.toMoment with
  | ok m =>
    rw [hm] at h
    exact ⟨m, rfl, (Except.ok.inj h).symm⟩
  | error e =>
    rw [hm] at h
    cases h

variable {d : CalendarDay}

lemma toMoment_write (h : d.isValid = true) :
    (Json.string d.write).toMoment = .ok ⟨d.number * 86400, 0, 0⟩ := by
  have htext : Moment.ofText? (Text.trim d.write).toList = some ⟨d.number * 86400, 0, 0⟩ := by
    rw [d.trim_write]
    exact Moment.ofText?_write h
  exact toMoment_of_some htext

lemma toMillis_write (h : d.isValid = true) :
    (Json.string d.write).toMillis = .ok (86400000 * d.number) := by
  rw [toMillis, toMoment_write h]
  have hmillis : Moment.millis ⟨d.number * 86400, 0, 0⟩ = 86400000 * d.number := by
    simp only [Moment.millis, Moment.epochSecond]
    omega
  exact congrArg Except.ok hmillis

lemma toDayExpression_write (h : d.isValid = true) :
    (Json.string d.write).toDayExpression = .ok (d.write ++ "||/d") := by
  rw [toDayExpression, toMoment_write h]
  have hday : Moment.day ⟨d.number * 86400, 0, 0⟩ = d := by
    rw [Moment.day, Int.mul_ediv_cancel _ (by decide)]
    exact CalendarDay.ofNumber_number (CalendarDay.isValid_iff.mp h).2
  exact congrArg (fun d : CalendarDay => Except.ok (d.write ++ "||/d")) hday

theorem day_reads_back :
    (∀ v text, toDayExpression v = .ok text → ∃ d : CalendarDay, d.isValid = true ∧
      text = d.write ++ "||/d" ∧ (Json.string d.write).toMillis = .ok (86400000 * d.number) ∧
      (Json.string d.write).toDayExpression = .ok text) ∧
    ∀ d : CalendarDay, d.isValid = true →
      (Json.string d.write).toDayExpression = .ok (d.write ++ "||/d") := by
  refine ⟨?_, fun d hd => toDayExpression_write hd⟩
  intro v text h
  obtain ⟨m, hm, rfl⟩ := toDayExpression_eq_ok h
  have hvalid := isValid_day hm
  exact ⟨m.day, hvalid, rfl, toMillis_write hvalid, toDayExpression_write hvalid⟩

theorem day_reads_back_signed :
    (Json.int 253402300800000).toDayExpression = .ok "+10000-01-01||/d" ∧
      ∃ d : CalendarDay, d.isValid = true ∧ "+10000-01-01||/d" = d.write ++ "||/d" ∧
        (Json.string d.write).toMillis = .ok (86400000 * d.number) ∧
        (Json.string d.write).toDayExpression = .ok "+10000-01-01||/d" := by
  have htext : (Json.int 253402300800000).toDayExpression = .ok "+10000-01-01||/d" := rfl
  exact ⟨htext, day_reads_back.1 _ _ htext⟩

end Json

end SearchCompiler
