import Mathlib.Logic.Function.Iterate
import Mathlib.Tactic.Common
import Mathlib.Tactic.IntervalCases
import SearchCompiler.Date.Calendar

/-! The two ways to tell a day, by year, month and day of the month and by its distance from the
epoch. Each gives back the other, and the day after has the next distance. -/

namespace SearchCompiler.CalendarDay

section Cycle

/-- The leap years of a cycle, counted from March: the leap day is that of the next year. -/
def EndsInLeapDay (year : Int) : Prop :=
  year % 4 = 3 ∧ (year % 100 ≠ 99 ∨ year = 399)

instance (year : Int) : Decidable (EndsInLeapDay year) :=
  inferInstanceAs (Decidable (_ ∧ _))

def lengthFromMarch (year month : Int) : Int :=
  if month = 11 then (if EndsInLeapDay year then 29 else 28)
  else daysBeforeMonth (month + 1) - daysBeforeMonth month

structure InCycle (year month day : Int) : Prop where
  year_nonneg : 0 ≤ year
  year_lt : year < 400
  month_nonneg : 0 ≤ month
  month_lt : month < 12
  day_nonneg : 0 ≤ day
  day_lt : day < lengthFromMarch year month

def yearOfCycle (n : Int) : Int := (n - n / 1460 + n / 36524 - n / 146096) / 365

lemma yearOfCycle_daysBeforeYear {year rest : Int} (hy : 0 ≤ year) (hy' : year < 400)
    (hr : 0 ≤ rest) (h : rest < 365 ∨ rest = 365 ∧ EndsInLeapDay year) :
    yearOfCycle (daysBeforeYear year + rest) = year := by
  obtain ⟨a, b, c, hb, hb', hc, hc', rfl⟩ : ∃ a b c : Int, 0 ≤ b ∧ b < 25 ∧ 0 ≤ c ∧ c < 4 ∧
      year = 100 * a + 4 * b + c :=
    ⟨year / 100, year % 100 / 4, year % 4, by omega, by omega, by omega, by omega, by omega⟩
  have hfours : (100 * a + 4 * b + c) / 4 = 25 * a + b := by omega
  have hcenturies : (100 * a + 4 * b + c) / 100 = a := by omega
  have hfour : (100 * a + 4 * b + c) % 4 = c := by omega
  have hcentury : (100 * a + 4 * b + c) % 100 = 4 * b + c := by omega
  rw [yearOfCycle, daysBeforeYear, hfours, hcenturies]
  rw [EndsInLeapDay, hfour, hcentury] at h
  generalize hn : 365 * (100 * a + 4 * b + c) + (25 * a + b) - a + rest = n
  -- The last day of the cycle is the only one behind four centuries of equal length.
  have hcycle : n / 146096 = if n = 146096 then 1 else 0 := by
    split <;> omega
  have hcenturies' : n / 36524 = if n = 146096 then 4 else a := by
    split <;> omega
  have hfours' : n / 1460 = 25 * a + b + (24 * a + b + 365 * c + rest) / 1460 := by omega
  rw [hfours', hcenturies', hcycle]
  split <;> omega

lemma daysBeforeMonth_add {year month day : Int} (h : InCycle year month day) :
    (daysBeforeMonth month + day < 365 ∨
      daysBeforeMonth month + day = 365 ∧ EndsInLeapDay year) ∧
    (5 * (daysBeforeMonth month + day) + 2) / 153 = month := by
  obtain ⟨-, -, hm, hm', hd, hd'⟩ := h
  simp only [lengthFromMarch, daysBeforeMonth] at *
  by_cases hl : EndsInLeapDay year
  · simp only [hl, and_true, if_true] at *
    split at hd' <;> omega
  · simp only [hl, and_false, if_false] at *
    split at hd' <;> omega

lemma daysBeforeYear_add {year month day : Int} (h : InCycle year month day) :
    0 ≤ daysBeforeYear year + daysBeforeMonth month + day ∧
      daysBeforeYear year + daysBeforeMonth month + day < 146097 := by
  obtain ⟨hrest, -⟩ := daysBeforeMonth_add h
  obtain ⟨hy, hy', hm, hm', hd, -⟩ := h
  simp only [daysBeforeYear, daysBeforeMonth, EndsInLeapDay] at *
  omega

lemma exists_inCycle {n : Int} (h : 0 ≤ n) (h' : n < 146097) : ∃ year month day,
    InCycle year month day ∧ n = daysBeforeYear year + daysBeforeMonth month + day := by
  obtain ⟨a, b, c, r, hyear, hr, hn⟩ : ∃ a b c r : Int,
      (0 ≤ a ∧ a < 4 ∧ 0 ≤ b ∧ b < 25 ∧ 0 ≤ c ∧ c < 4) ∧
      (0 ≤ r ∧ (r < 365 ∨ r = 365 ∧ c = 3 ∧ (b < 24 ∨ a = 3))) ∧
      n = 36524 * a + 1461 * b + 365 * c + r := by
    let a := min 3 (n / 36524)
    let b := (n - 36524 * a) / 1461
    let c := min 3 ((n - 36524 * a) % 1461 / 365)
    refine ⟨a, b, c, n - 36524 * a - 1461 * b - 365 * c, ?_, ?_, ?_⟩ <;> omega
  have hlast : r = 365 → EndsInLeapDay (100 * a + 4 * b + c) := by
    intro hr'
    rw [EndsInLeapDay]
    omega
  refine ⟨100 * a + 4 * b + c, (5 * r + 2) / 153, r - daysBeforeMonth ((5 * r + 2) / 153),
    ⟨by omega, by omega, by omega, by omega, ?_, ?_⟩, ?_⟩
  · rw [daysBeforeMonth]
    omega
  · simp only [daysBeforeMonth, lengthFromMarch]
    by_cases hl : EndsInLeapDay (100 * a + 4 * b + c)
    · simp only [hl, if_true]
      split <;> omega
    · have hr' : r < 365 := by
        by_contra hge
        exact hl (hlast (by omega))
      simp only [hl, if_false]
      split <;> omega
  · rw [daysBeforeYear]
    omega

def fromMarch (cycle year month day : Int) : CalendarDay :=
  let civilMonth := if month < 10 then month + 3 else month - 9
  let civilYear := year + cycle * 400
  ⟨if civilMonth ≤ 2 then civilYear + 1 else civilYear, civilMonth.toNat, (day + 1).toNat⟩

def numberFromMarch (cycle year month day : Int) : Int :=
  cycle * 146097 + (daysBeforeYear year + daysBeforeMonth month + day) - epochShift

variable {cycle year month day : Int}

lemma ofNumber_numberFromMarch (h : InCycle year month day) :
    ofNumber (numberFromMarch cycle year month day) = fromMarch cycle year month day := by
  obtain ⟨hn, hn'⟩ := daysBeforeYear_add h
  obtain ⟨hrest, hmonth⟩ := daysBeforeMonth_add h
  have hnonneg : 0 ≤ daysBeforeMonth month + day := by
    have hm := h.month_nonneg
    have hd := h.day_nonneg
    rw [daysBeforeMonth]
    omega
  have hyear := yearOfCycle_daysBeforeYear h.year_nonneg h.year_lt hnonneg hrest
  rw [← Int.add_assoc, yearOfCycle] at hyear
  generalize hplaces : daysBeforeYear year + daysBeforeMonth month + day = n at *
  have hshift : numberFromMarch cycle year month day + epochShift = cycle * 146097 + n := by
    rw [numberFromMarch, hplaces]
    omega
  have hcycle : (cycle * 146097 + n) / 146097 = cycle := by omega
  have hplace : (cycle * 146097 + n) % 146097 = n := by omega
  have hofYear : n - daysBeforeYear year = daysBeforeMonth month + day := by omega
  have hday : daysBeforeMonth month + day - daysBeforeMonth month + 1 = day + 1 := by omega
  simp only [ofNumber, hshift, hcycle, hplace, hyear, hofYear, hmonth, hday, fromMarch]

lemma number_fromMarch (h : InCycle year month day) :
    (fromMarch cycle year month day).number = numberFromMarch cycle year month day := by
  obtain ⟨hy, hy', hm, hm', hd, -⟩ := h
  have hyear : (if (fromMarch cycle year month day).month ≤ 2
      then (fromMarch cycle year month day).year - 1
      else (fromMarch cycle year month day).year) = year + cycle * 400 := by
    simp only [fromMarch]
    split <;> omega
  have hmonth : ((((fromMarch cycle year month day).month + 9) % 12 : Nat) : Int) = month := by
    simp only [fromMarch]
    split <;> omega
  have hday : (((fromMarch cycle year month day).day : Nat) : Int) = day + 1 := by
    simp only [fromMarch]
    omega
  have hcycle : (year + cycle * 400) / 400 = cycle := by omega
  have hplace : (year + cycle * 400) % 400 = year := by omega
  simp only [number, hyear, hmonth, hday, hcycle, hplace, numberFromMarch]
  omega

lemma isLeapYear_fromMarch (hy : 0 ≤ year) (hy' : year < 400) :
    isLeapYear (year + cycle * 400 + 1) = true ↔ EndsInLeapDay year := by
  simp only [isLeapYear, EndsInLeapDay, Bool.and_eq_true, Bool.or_eq_true, beq_iff_eq, bne_iff_ne]
  omega

lemma monthLength_fromMarch (hy : 0 ≤ year) (hy' : year < 400) (hm : 0 ≤ month)
    (hm' : month < 12) :
    (monthLength (fromMarch cycle year month day).year
      (fromMarch cycle year month day).month : Int) = lengthFromMarch year month := by
  have hleap := @isLeapYear_fromMarch cycle year hy hy'
  simp only [fromMarch, monthLength, lengthFromMarch]
  interval_cases month <;> simp [daysBeforeMonth, hleap]

lemma exists_numberFromMarch (n : Int) : ∃ cycle year month day,
    InCycle year month day ∧ n = numberFromMarch cycle year month day := by
  obtain ⟨year, month, day, h, hn⟩ :=
    exists_inCycle (n := (n + epochShift) % 146097) (by omega) (by omega)
  refine ⟨(n + epochShift) / 146097, year, month, day, h, ?_⟩
  rw [numberFromMarch, ← hn]
  omega

end Cycle

structure IsProper (d : CalendarDay) : Prop where
  month_pos : 1 ≤ d.month
  month_le : d.month ≤ 12
  day_pos : 1 ≤ d.day
  day_le : d.day ≤ monthLength d.year d.month

lemma isValid_iff {d : CalendarDay} :
    d.isValid = true ↔ (firstYear ≤ d.year ∧ d.year ≤ lastYear) ∧ d.IsProper := by
  simp only [isValid, Bool.and_eq_true, decide_eq_true_eq]
  constructor
  · rintro ⟨⟨⟨⟨⟨hy, hy'⟩, hm⟩, hm'⟩, hd⟩, hd'⟩
    exact ⟨⟨hy, hy'⟩, hm, hm', hd, hd'⟩
  · rintro ⟨⟨hy, hy'⟩, hm, hm', hd, hd'⟩
    exact ⟨⟨⟨⟨⟨hy, hy'⟩, hm⟩, hm'⟩, hd⟩, hd'⟩

lemma isProper_fromMarch {cycle year month day : Int} (h : InCycle year month day) :
    (fromMarch cycle year month day).IsProper := by
  obtain ⟨hy, hy', hm, hm', hd, hd'⟩ := h
  have hlength := @monthLength_fromMarch cycle year month day hy hy' hm hm'
  refine ⟨?_, ?_, ?_, ?_⟩
  · simp only [fromMarch]
    split <;> omega
  · simp only [fromMarch]
    split <;> omega
  · simp only [fromMarch]
    omega
  · rw [← hlength] at hd'
    generalize monthLength _ _ = length at *
    simp only [fromMarch]
    omega

lemma exists_fromMarch {d : CalendarDay} (h : d.IsProper) : ∃ cycle year month day,
    InCycle year month day ∧ d = fromMarch cycle year month day := by
  obtain ⟨year, month, day⟩ := d
  obtain ⟨hm, hm', hd, hd'⟩ := h
  simp only at hm hm' hd hd'
  obtain ⟨marchYear, hyear⟩ : ∃ y : Int, y = if month ≤ 2 then year - 1 else year := ⟨_, rfl⟩
  obtain ⟨marchMonth, hmonth⟩ : ∃ m : Int, m = ((month + 9) % 12 : Nat) := ⟨_, rfl⟩
  have hfrom : (⟨year, month, day⟩ : CalendarDay) =
      fromMarch (marchYear / 400) (marchYear % 400) marchMonth (day - 1) := by
    simp only [fromMarch, CalendarDay.mk.injEq]
    refine ⟨?_, ?_, ?_⟩
    · split at hyear <;> split <;> split <;> omega
    · split <;> omega
    · omega
  have hm₀ : 0 ≤ marchMonth := by omega
  have hm₁ : marchMonth < 12 := by omega
  have hlength : (monthLength year month : Int) =
      lengthFromMarch (marchYear % 400) marchMonth := by
    have hfromLength := @monthLength_fromMarch (marchYear / 400) (marchYear % 400) marchMonth
      (day - 1) (by omega) (by omega) hm₀ hm₁
    rwa [← hfrom] at hfromLength
  exact ⟨_, _, _, _, ⟨by omega, by omega, hm₀, hm₁, by omega, by omega⟩, hfrom⟩

lemma monthLength_le (d : CalendarDay) : monthLength d.year d.month ≤ 31 := by
  rw [monthLength]
  split
  · split <;> decide
  · split <;> decide

theorem number_ofNumber (n : Int) : (ofNumber n).number = n := by
  obtain ⟨cycle, year, month, day, h, rfl⟩ := exists_numberFromMarch n
  rw [ofNumber_numberFromMarch h, number_fromMarch h]

theorem ofNumber_number {d : CalendarDay} (h : d.IsProper) : ofNumber d.number = d := by
  obtain ⟨cycle, year, month, day, hplace, rfl⟩ := exists_fromMarch h
  rw [number_fromMarch hplace, ofNumber_numberFromMarch hplace]

lemma isProper_ofNumber (n : Int) : (ofNumber n).IsProper := by
  obtain ⟨cycle, year, month, day, h, rfl⟩ := exists_numberFromMarch n
  rw [ofNumber_numberFromMarch h]
  exact isProper_fromMarch h

def next (d : CalendarDay) : CalendarDay :=
  if d.day < monthLength d.year d.month then { d with day := d.day + 1 }
  else if d.month < 12 then ⟨d.year, d.month + 1, 1⟩
  else ⟨d.year + 1, 1, 1⟩

lemma isLeapYear_iff (year : Int) :
    isLeapYear year = true ↔ year % 4 = 0 ∧ (year % 100 ≠ 0 ∨ year % 400 = 0) := by
  simp [isLeapYear]

lemma number_next_of_last (year : Int) {month : Nat} (hm : 1 ≤ month) (hm' : month ≤ 12) :
    (if month < 12 then (⟨year, month + 1, 1⟩ : CalendarDay) else ⟨year + 1, 1, 1⟩).number =
      number ⟨year, month, monthLength year month⟩ + 1 := by
  have hleap := isLeapYear_iff year
  by_cases hl : isLeapYear year = true
  · have hrule := hleap.mp hl
    interval_cases month <;>
      simp [number, monthLength, hl, daysBeforeMonth, daysBeforeYear] <;> omega
  · have hrule := hleap.not.mp hl
    interval_cases month <;>
      simp [number, monthLength, hl, daysBeforeMonth, daysBeforeYear] <;> omega

theorem number_next {d : CalendarDay} (h : d.IsProper) : d.next.number = d.number + 1 := by
  obtain ⟨year, month, day⟩ := d
  obtain ⟨hm, hm', hd, hd'⟩ := h
  simp only at hm hm' hd hd'
  by_cases hlast : day < monthLength year month
  · rw [next, if_pos hlast]
    simp only [number]
    omega
  · obtain rfl : day = monthLength year month := by omega
    rw [next, if_neg hlast]
    exact number_next_of_last year hm hm'

lemma isProper_next {d : CalendarDay} (h : d.IsProper) : d.next.IsProper := by
  obtain ⟨hm, hm', hd, hd'⟩ := h
  have hfirst (year : Int) (month : Nat) : 1 ≤ monthLength year month := by
    rw [monthLength]
    split
    · split <;> decide
    · split <;> decide
  rw [next]
  split
  · exact ⟨hm, hm', Nat.le_add_left _ _, by assumption⟩
  · split
    · rename_i hmonth
      exact ⟨Nat.le_add_left _ _, hmonth, le_rfl, hfirst _ _⟩
    · exact ⟨le_rfl, Nat.le_add_left 1 11, le_rfl, hfirst _ _⟩

lemma number_iterate_next {d : CalendarDay} (h : d.IsProper) (n : Nat) :
    (next^[n] d).IsProper ∧ (next^[n] d).number = d.number + n := by
  induction n with
  | zero => exact ⟨h, (Int.add_zero _).symm⟩
  | succ n ih =>
    rw [Function.iterate_succ_apply', number_next ih.1, ih.2]
    exact ⟨isProper_next ih.1, by omega⟩

theorem iterate_next_eq_iff {d d' : CalendarDay} (h : d.IsProper) (h' : d'.IsProper) (n : Nat) :
    next^[n] d = d' ↔ d'.number = d.number + n := by
  obtain ⟨hproper, hnumber⟩ := number_iterate_next h n
  rw [← hnumber]
  constructor
  · rintro rfl
    rfl
  · intro heq
    rw [← ofNumber_number hproper, ← heq, ofNumber_number h']

example : number ⟨1970, 1, 1⟩ = 0 := rfl

end SearchCompiler.CalendarDay
