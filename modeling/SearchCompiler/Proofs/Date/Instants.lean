import SearchCompiler.Proofs.Date.Days

/-! A date value as a day and as an instant. The day is that of the instant on the clock that the
value was written for, and the milliseconds lie in the second of the instant or, for a leap second,
in the one that it runs on into. -/

namespace SearchCompiler

def PrintsDay (text : String) (number : Int) : Prop :=
  (∃ d : CalendarDay, d.isValid = true ∧ text = d.write ++ "||/d") ∧
    ∀ d : CalendarDay, d.isValid = true → text = d.write ++ "||/d" → d.number = number

namespace Json

def writtenOffset : Json → Int
  | .string s => Moment.writtenOffset (Text.trim s).toList
  | _ => 0

def writtenSecond : Json → Nat
  | .string s => Moment.writtenSecond (Text.trim s).toList
  | _ => 0

def leapMillis (v : Json) : Nat := if v.writtenSecond = 60 then 1000 else 0

structure OnClock (v : Json) (m : Moment) : Prop where
  offset_eq : m.offset = v.writtenOffset
  le_nanos : v.leapMillis * 1000000 ≤ m.nanos
  nanos_lt : m.nanos < (v.leapMillis + 1000) * 1000000

variable {v : Json} {m : Moment} {i : Int}

lemma eq_of_ofMillis? (h : Moment.ofMillis? i = some m) :
    m = ⟨i / 1000, (i % 1000).toNat * 1000000, 0⟩ := by
  rw [Moment.ofMillis?] at h
  split at h
  · exact (Option.some.inj h).symm
  · cases h

lemma onClock (h : v.toMoment = .ok m) : v.OnClock m := by
  rcases toMoment_eq_ok h with ⟨s, rfl, hs⟩ | ⟨i, rfl, hi⟩
  · obtain ⟨p, hp, hnanos, hoffset, hsecond⟩ := Moment.exists_of_ofText? hs
    obtain ⟨-, -, hoffset', hnanos'⟩ := Moment.Parts.of_moment? hp
    have hleap : (if p.second = 60 then 1000000000 else 0) =
        (Json.string s).leapMillis * 1000000 := by
      rw [hsecond, leapMillis, writtenSecond]
      split <;> rfl
    rw [hleap] at hnanos'
    refine ⟨hoffset'.trans hoffset, ?_, ?_⟩
    · omega
    · omega
  · have hleap : (Json.int i).leapMillis = 0 := rfl
    obtain rfl := eq_of_ofMillis? hi
    refine ⟨rfl, ?_, ?_⟩
    · rw [hleap]
      exact Nat.zero_le _
    · rw [hleap]
      dsimp only
      omega

lemma millis_int (h : (Json.int i).toMoment = .ok m) : m.millis = i := by
  rcases toMoment_eq_ok h with ⟨s, hs, -⟩ | ⟨j, hj, hm⟩
  · cases hs
  · cases hj
    obtain rfl := eq_of_ofMillis? hm
    simp only [Moment.millis, Moment.epochSecond]
    omega

lemma write_inj {d d' : CalendarDay} (h : d.isValid = true) (h' : d'.isValid = true)
    (heq : d.write = d'.write) : d.number = d'.number := by
  have hmillis := toMillis_write h
  rw [heq, toMillis_write h'] at hmillis
  have hnumbers := Except.ok.inj hmillis
  omega

lemma printsDay_day (h : v.toMoment = .ok m) :
    PrintsDay (m.day.write ++ "||/d") ((m.epochSecond + m.offset) / 86400) := by
  have hvalid := isValid_day h
  refine ⟨⟨m.day, hvalid, rfl⟩, ?_⟩
  intro d hd htext
  have hnumber := write_inj hd hvalid ((String.append_left_inj _).mp htext).symm
  rw [hnumber, Moment.day, CalendarDay.number_ofNumber, Moment.epochSecond, Int.sub_add_cancel]

theorem day_agrees_with_millis (v : Json) :
    (∀ e, v.toDayExpression = .error e ↔ v.toMillis = .error e) ∧
      ∀ text n, v.toDayExpression = .ok text → v.toMillis = .ok n →
        ∃ m, v.toMoment = .ok m ∧
          PrintsDay text ((m.epochSecond + v.writtenOffset) / 86400) ∧
          1000 * m.epochSecond + v.leapMillis ≤ n ∧
          n < 1000 * m.epochSecond + v.leapMillis + 1000 ∧
          ∀ i, v = .int i → n = i := by
  constructor
  · intro e
    rw [toDayExpression, toMillis]
    cases v.toMoment <;> simp [Except.map]
  · intro text n htext hn
    obtain ⟨m, hm, rfl⟩ := toDayExpression_eq_ok htext
    rw [toMillis, hm] at hn
    obtain rfl := Except.ok.inj hn
    obtain ⟨hoffset, hle, hlt⟩ := onClock hm
    refine ⟨m, hm, ?_, ?_, ?_, ?_⟩
    · rw [← hoffset]
      exact printsDay_day hm
    · rw [Moment.millis]
      omega
    · rw [Moment.millis]
      omega
    · rintro i rfl
      exact millis_int hm

def leapSecond : Json := .string "2015-07-01T01:59:60.25+02:00"

theorem day_agrees_with_millis_leapSecond :
    leapSecond.toDayExpression = .ok "2015-07-01||/d" ∧
      leapSecond.toMillis = .ok 1435708800250 ∧
      leapSecond.writtenOffset = 7200 ∧ leapSecond.leapMillis = 1000 ∧
      ∃ m, leapSecond.toMoment = .ok m ∧
        PrintsDay "2015-07-01||/d" ((m.epochSecond + leapSecond.writtenOffset) / 86400) ∧
        1000 * m.epochSecond + leapSecond.leapMillis ≤ 1435708800250 ∧
        1435708800250 < 1000 * m.epochSecond + leapSecond.leapMillis + 1000 ∧
        ∀ i, leapSecond = .int i → 1435708800250 = i := by
  have htext : leapSecond.toDayExpression = .ok "2015-07-01||/d" := rfl
  have hmillis : leapSecond.toMillis = .ok 1435708800250 := rfl
  exact ⟨htext, hmillis, rfl, rfl, (day_agrees_with_millis leapSecond).2 _ _ htext hmillis⟩

end Json

end SearchCompiler
