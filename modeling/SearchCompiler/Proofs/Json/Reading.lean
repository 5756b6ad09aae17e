import Mathlib.Tactic.Common
import SearchCompiler.Sorting.Key

/-! A document that cannot be read is of the wrong form: its failure says nothing else. -/

namespace SearchCompiler

variable {α β : Type}

lemma Read.bind_eq_ok {x : Read α} {f : α → Read β} {b : β} :
    x >>= f = .ok b ↔ ∃ a, x = .ok a ∧ f a = .ok b := by
  cases x with
  | ok a =>
    change f a = .ok b ↔ _
    simp
  | error e =>
    change (.error e : Read β) = .ok b ↔ _
    simp

inductive Read.ByForm : Read α → Prop
  | ok (a : α) : ByForm (.ok a)
  | error (fault : ReadFault) : ByForm (.error (.misread fault))

namespace Read.ByForm

lemma misshapen : ByForm (.error .misshapen : Read α) := .error .shape

lemma bind {x : Read α} {f : α → Read β} (hx : x.ByForm) (hf : ∀ a, (f a).ByForm) :
    (x >>= f).ByForm := by
  cases hx with
  | ok a => exact hf a
  | error fault => exact .error fault

lemma map {x : Read α} (hx : x.ByForm) (f : α → β) : ByForm (x.map f) := by
  cases hx with
  | ok a => exact .ok (f a)
  | error fault => exact .error fault

lemma mapM {read : α → Read β} (h : ∀ a, (read a).ByForm) (as : List α) :
    (as.mapM read).ByForm := by
  induction as with
  | nil => exact .ok []
  | cons a as ih =>
    rw [List.mapM_cons]
    exact (h a).bind fun b => ih.bind fun bs => .ok (b :: bs)

lemma exists_eq_error {x : Read α} (hx : x.ByForm) (h : ∀ a, x ≠ .ok a) :
    ∃ fault, x = .error (.misread fault) := by
  cases hx with
  | ok a => exact (h a rfl).elim
  | error fault => exact ⟨fault, rfl⟩

end Read.ByForm

namespace Reading

inductive ByForm : Reading α → Prop
  | value (a : α) : ByForm (.value a)
  | fault (place : Nat) (fault : ReadFault) : ByForm (.fault place (.misread fault))

namespace ByForm

lemma forall_mem {x : Reading α} (hx : x.ByForm) : ∀ y ∈ some x, y.ByForm := by
  rintro y ⟨⟩
  exact hx

lemma ofRead {x : Read α} (hx : x.ByForm) (place : Nat) : (Reading.ofRead place x).ByForm := by
  cases hx with
  | ok a => exact .value a
  | error fault => exact .fault place fault

lemma toRead {x : Reading α} (hx : x.ByForm) : x.toRead.ByForm := by
  cases hx with
  | value a => exact .ok a
  | fault place fault => exact .error fault

lemma map {x : Reading α} (hx : x.ByForm) (f : α → β) : (f <$> x).ByForm := by
  cases hx with
  | value a => exact .value (f a)
  | fault place fault => exact .fault place fault

lemma seq {f : Reading (α → β)} {x : Reading α} (hf : f.ByForm) (hx : x.ByForm) :
    (f <*> x).ByForm := by
  cases hf with
  | value f => exact hx.map f
  | fault place fault =>
    cases hx with
    | value a => exact .fault place fault
    | fault place' fault' =>
      change ByForm (if place' < place then _ else _)
      split
      · exact .fault place' fault'
      · exact .fault place fault

end ByForm

lemma map_eq_value {f : α → β} {x : Reading α} {b : β} :
    f <$> x = .value b ↔ ∃ a, x = .value a ∧ f a = b := by
  cases x with
  | value a =>
    change Reading.value (f a) = .value b ↔ _
    simp
  | fault place e =>
    change Reading.fault place e = .value b ↔ _
    simp

lemma seq_eq_value {f : Reading (α → β)} {x : Reading α} {b : β} :
    f <*> x = .value b ↔ ∃ g a, f = .value g ∧ x = .value a ∧ g a = b := by
  cases f with
  | value g =>
    change g <$> x = .value b ↔ _
    simp [map_eq_value]
  | fault place e =>
    have hne : (Reading.fault place e <*> x : Reading β) ≠ .value b := by
      intro h
      cases x with
      | value a => cases h
      | fault place' e' =>
        change (if place' < place then Reading.fault place' e' else .fault place e) = _ at h
        split at h <;> cases h
    simp [hne]

lemma ofRead_eq_value {place : Nat} {x : Read α} {a : α} :
    ofRead place x = .value a ↔ x = .ok a := by
  cases x <;> simp [ofRead]

end Reading

namespace Json

def ReadsForm (read : Json → Read α) : Prop := ∀ v, (read v).ByForm

variable {read : Json → Read α}

lemma readsForm_text : ReadsForm toText := by
  intro v
  cases v with
  | string s => exact .ok s
  | _ => exact .misshapen

lemma readsForm_bool : ReadsForm toBool := by
  intro v
  cases v with
  | bool b => exact .ok b
  | _ => exact .misshapen

lemma readsForm_count : ReadsForm toCount := by
  intro v
  rw [toCount.eq_def]
  split
  · split
    · exact .ok _
    · exact .misshapen
  · exact .misshapen

lemma readsForm_binary64 : ReadsForm toBinary64 := by
  intro v
  cases v with
  | number n => exact .ok n.toBinary64
  | _ => exact .misshapen

lemma readsForm_options : ReadsForm toOptions := by
  intro v
  cases v with
  | object members => exact .ok members
  | _ => exact .misshapen

lemma readsForm_any : ReadsForm toAny := fun v => .ok v

lemma readsForm_pair : ReadsForm toPair := by
  intro v
  rw [toPair.eq_def]
  split
  · exact .ok _
  · exact .misshapen

lemma ReadsForm.option (h : ReadsForm read) : ReadsForm (toOption read) := by
  intro v
  cases v with
  | null => exact .ok none
  | _ => exact (h _).map some

lemma ReadsForm.list (h : ReadsForm read) : ReadsForm (toList read) := by
  intro v
  cases v with
  | array items => exact .mapM h items
  | _ => exact .misshapen

end Json

namespace Record

variable {r : Record} {read : Json → Read α}

lemma member_byForm {x : Read α} (hx : x.ByForm) (name : String) : (r.member name x).ByForm :=
  .ofRead hx _

lemma required_byForm (h : Json.ReadsForm read) (name : String) :
    (r.required name read).ByForm := by
  refine member_byForm ?_ name
  rw [Options.required]
  split
  · exact h _
  · exact .misshapen

lemma withDefault_byForm (h : Json.ReadsForm read) (name : String) (default : α) :
    (r.withDefault name default read).ByForm := by
  refine member_byForm ?_ name
  rw [Options.withDefault]
  split
  · exact h _
  · exact .ok default

lemma optional_byForm (h : Json.ReadsForm read) (name : String) :
    (r.optional name read).ByForm :=
  withDefault_byForm h.option name none

lemma finish_byForm {x : Reading α} (hx : x.ByForm) : (r.finish x).ByForm := by
  refine hx.toRead.bind fun a => ?_
  split
  · exact .misshapen
  · exact .ok a

lemma finish_eq_ok {x : Reading α} {a : α} :
    r.finish x = .ok a ↔ x = .value a ∧ r.surplus = false := by
  rw [finish]
  cases x with
  | value b =>
    change (if r.surplus then .error .misshapen else .ok b : Read α) = .ok a ↔ _
    cases r.surplus <;> simp
  | fault place e =>
    change (.error e : Read α) = .ok a ↔ _
    simp

end Record

lemma Json.readsForm_record {names : List String} {read : Record → Reading α}
    (h : ∀ r, (read r).ByForm) : ReadsForm (toRecord names read) := by
  intro v
  cases v with
  | object members => exact Record.finish_byForm (h _)
  | array items => exact Record.finish_byForm (h _)
  | _ => exact .misshapen

lemma Operator.readsForm : Json.ReadsForm ofJson := by
  intro v
  refine (Json.readsForm_text v).bind fun text => ?_
  cases ofText? text with
  | some op => exact .ok op
  | none => exact .error (.operator text)

lemma Coordinates.readsForm : Json.ReadsForm ofJson :=
  Json.readsForm_record fun _ =>
    ((Record.required_byForm Json.readsForm_binary64 "lat").map mk).seq
      (Record.required_byForm Json.readsForm_binary64 "lon")

lemma Direction.readsForm : Json.ReadsForm ofJson := by
  intro v
  rw [ofJson.eq_def]
  split
  · split
    · exact .ok _
    · split
      · exact .ok _
      · split
        · exact .error _
        · exact .misshapen
  · exact .misshapen

namespace SortSubject

lemma ofTag_byForm (tag : Option String) (point : Option Json) : (ofTag tag point).ByForm := by
  rw [ofTag.eq_def]
  split
  · exact .ok _
  · exact (Coordinates.readsForm _).map _
  · exact .misshapen

lemma readsForm (placement : Placement) : Json.ReadsForm (ofJson placement) := by
  intro v
  rw [ofJson.eq_def]
  split
  · exact ofTag_byForm _ _
  · exact ofTag_byForm _ _
  · split
    · exact .misshapen
    · exact ofTag_byForm _ _
  · exact .misshapen

end SortSubject

lemma SortKey.readsForm (placement : Placement) : Json.ReadsForm (ofJson placement) :=
  Json.readsForm_record fun _ =>
    ((((Record.required_byForm Json.readsForm_text "column").map mk).seq
      (Record.withDefault_byForm Direction.readsForm "direction" _)).seq
      (Record.withDefault_byForm (SortSubject.readsForm placement) "kind" _)).seq
      (Record.withDefault_byForm Json.readsForm_options "options" _)

end SearchCompiler
