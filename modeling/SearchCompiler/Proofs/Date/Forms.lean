import SearchCompiler.Date.Value
import SearchCompiler.Proofs.Date.Clocks

/-! The three forms of a date do not meet. A date has no colon; behind the second colon of a date
with a time stand blanks and digits only, and behind that of a timestamp something else. So the
order in which the forms are tried makes no difference, and trying one of them first does not. -/

namespace SearchCompiler

open Text (isBlank isDigit)

namespace Moment

inductive Form where
  | timestamp | dateTime | date

def writtenForm (cs : List Char) : Form :=
  if ':' ∉ cs then .date
  else if (behindColon (behindColon cs)).all fun c => isBlank c || isDigit c then .dateTime
  else .timestamp

namespace Form

def read? : Form → List Char → Option Moment
  | timestamp => ofTimestamp?
  | dateTime => ofDateTime?
  | date => ofDate?

def day : Form → Moment → CalendarDay
  | timestamp, m => m.day
  | _, m => .ofNumber (m.epochSecond / 86400)

end Form

variable {cs : List Char} {m : Moment}

lemma Piece.isBlank_or_isDigit {n : Nat} {piece : List Char} (h : Piece n piece) :
    ∀ c ∈ piece, (isBlank c || isDigit c) = true := by
  obtain ⟨blanks, ds, rfl, hblanks, hds⟩ := h
  intro c hc
  rw [Bool.or_eq_true]
  exact (List.mem_append.mp hc).imp (hblanks c) (hds.isDigit c)

lemma writtenForm_of_not_mem (h : ':' ∉ cs) : writtenForm cs = .date := if_pos h

lemma writtenForm_of_ofDateTime? (h : ofDateTime? cs = some m) : writtenForm cs = .dateTime := by
  obtain ⟨p, -, -, -, htimed⟩ := exists_of_ofDateTime? h
  obtain ⟨s, hbehind, hs⟩ := exists_behind_of_timed htimed
  have hall : (behindColon (behindColon cs)).all (fun c => isBlank c || isDigit c) = true := by
    rw [hbehind, List.append_nil, List.all_eq_true]
    exact hs.isBlank_or_isDigit
  rw [writtenForm, if_neg (not_not_intro htimed.colon_mem), if_pos hall]

lemma writtenForm_of_ofTimestamp? (h : ofTimestamp? cs = some m) : writtenForm cs = .timestamp := by
  obtain ⟨p, tail, zone, -, -, htimed, htail, hzone⟩ := exists_of_ofTimestamp? h
  obtain ⟨s, hbehind, -⟩ := exists_behind_of_timed htimed
  have hother : ∃ c ∈ tail, (isBlank c || isDigit c) = false := by
    rcases htail with rfl | ⟨fraction, rfl⟩
    · obtain ⟨c, rest, rfl, hblank, hdigit⟩ := exists_cons_of_scanOffset hzone
      exact ⟨c, List.mem_cons_self, by rw [hblank, hdigit]; rfl⟩
    · exact ⟨'.', List.mem_cons_self, by decide⟩
  have hall : ¬ (behindColon (behindColon cs)).all (fun c => isBlank c || isDigit c) = true := by
    obtain ⟨c, hc, hother⟩ := hother
    rw [hbehind, List.all_eq_true]
    intro hall
    rw [hall c (List.mem_append_right s hc)] at hother
    cases hother
  rw [writtenForm, if_neg (not_not_intro htimed.colon_mem), if_neg hall]

namespace Form

variable {f : Form}

lemma eq_writtenForm (h : f.read? cs = some m) : f = writtenForm cs := by
  cases f with
  | timestamp => exact (writtenForm_of_ofTimestamp? h).symm
  | dateTime => exact (writtenForm_of_ofDateTime? h).symm
  | date => exact (writtenForm_of_not_mem (exists_of_ofDate? h).1).symm

lemma findSome?_read? {forms : List Form} (hall : ∀ f : Form, f ∈ forms) (cs : List Char) :
    forms.findSome? (fun f => f.read? cs) = (writtenForm cs).read? cs := by
  cases hfound : forms.findSome? (fun f => f.read? cs) with
  | none => exact (List.findSome?_eq_none_iff.mp hfound _ (hall _)).symm
  | some m =>
    obtain ⟨f, -, hf⟩ := List.exists_of_findSome?_eq_some hfound
    rw [← eq_writtenForm hf, hf]

lemma day_eq (h : f.read? cs = some m) : f.day m = m.day := by
  have hday (hoffset : m.offset = 0) : CalendarDay.ofNumber (m.epochSecond / 86400) = m.day := by
    rw [Moment.day, epochSecond, hoffset, Int.sub_zero]
  cases f with
  | timestamp => rfl
  | dateTime =>
    obtain ⟨p, hp, -, hoffset, -⟩ := exists_of_ofDateTime? h
    exact hday ((Parts.of_moment? hp).2.2.1.trans hoffset)
  | date =>
    obtain ⟨-, _, hp⟩ := exists_of_ofDate? h
    exact hday (Parts.of_moment? hp).2.2.1

end Form

lemma ofText?_eq_findSome? (cs : List Char) :
    ofText? cs = [Form.timestamp, .dateTime, .date].findSome? (fun f => f.read? cs) := by
  simp only [ofText?, List.findSome?, Form.read?]
  cases ofTimestamp? cs <;> cases ofDateTime? cs <;> cases ofDate? cs <;> rfl

lemma ofText?_eq_read? (cs : List Char) : ofText? cs = (writtenForm cs).read? cs := by
  rw [ofText?_eq_findSome?]
  exact Form.findSome?_read? (fun f => by cases f <;> simp) cs

example : writtenForm "2024-03-01 12:30:00".toList = .dateTime ∧
    writtenForm "2024-03-01 12:30:00Z".toList = .timestamp := ⟨rfl, rfl⟩

end Moment

namespace Json

open Moment (Form)

variable {s : String} {m : Moment}

lemma toMoment_of_some (h : Moment.ofText? (Text.trim s).toList = some m) :
    (Json.string s).toMoment = .ok m := by
  unfold toMoment
  dsimp only
  rw [h]

lemma toMoment_of_none (h : Moment.ofText? (Text.trim s).toList = none) :
    (Json.string s).toMoment = .error (.notADate (Text.trim s)) := by
  unfold toMoment
  dsimp only
  rw [h]

structure OneForm (s : String) : Prop where
  unique : ∀ f g : Form, (f.read? s.toList).isSome = true → (g.read? s.toList).isSome = true → f = g
  anyOrder : ∀ forms : List Form, (∀ f, f ∈ forms) →
    forms.findSome? (fun f => f.read? s.toList) = Moment.ofText? s.toList
  read : ∀ (f : Form) m, f.read? (Text.trim s).toList = some m →
    (Json.string s).toMillis = .ok m.millis ∧
      (Json.string s).toDayExpression = .ok ((f.day m).write ++ "||/d")
  unread : (∀ f : Form, f.read? (Text.trim s).toList = none) →
    (Json.string s).toMillis = .error (.notADate (Text.trim s)) ∧
      (Json.string s).toDayExpression = .error (.notADate (Text.trim s))

theorem oneForm (s : String) : OneForm s := by
  constructor
  · intro f g hf hg
    obtain ⟨m, hm⟩ := Option.isSome_iff_exists.mp hf
    obtain ⟨m', hm'⟩ := Option.isSome_iff_exists.mp hg
    exact (Form.eq_writtenForm hm).trans (Form.eq_writtenForm hm').symm
  · intro forms hall
    rw [Form.findSome?_read? hall, Moment.ofText?_eq_read?]
  · intro f m h
    have htext : Moment.ofText? (Text.trim s).toList = some m := by
      rw [Moment.ofText?_eq_read?, ← Form.eq_writtenForm h, h]
    rw [toMillis, toDayExpression, toMoment_of_some htext, Form.day_eq h]
    exact ⟨rfl, rfl⟩
  · intro h
    have htext : Moment.ofText? (Text.trim s).toList = none := by
      rw [Moment.ofText?_eq_read?, h]
    rw [toMillis, toDayExpression, toMoment_of_none htext]
    exact ⟨rfl, rfl⟩

end Json

end SearchCompiler
