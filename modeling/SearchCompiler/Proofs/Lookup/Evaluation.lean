import Mathlib.Data.List.Forall2
import Mathlib.Tactic.Common
import SearchCompiler.Lookup

/-! The result of a computation as a function of one mapping: it does not depend on when that
mapping was fetched, and a sequence of computations reads the same mapping throughout. -/

namespace SearchCompiler

namespace Source

def mapping (s : Source) (m : Memory) : Except Failure FieldTable :=
  match m.cache.get? s.index with
  | some fields => .ok fields
  | none => s.provider s.index

def reply (s : Source) (mapping : Except Failure FieldTable) (column : String) :
    Except Failure String :=
  match wellKnown? column with
  | some name => .ok name
  | none => if s.trusting then .ok column else mapping.bind (s.pathIn column)

lemma fields_fst (s : Source) (m : Memory) : (s.fields m).1 = s.mapping m := by
  simp only [fields, mapping, Cache.recall]
  cases m.cache.get? s.index with
  | some fields => rfl
  | none => cases s.provider s.index <;> rfl

lemma mapping_fields (s : Source) (m : Memory) : s.mapping (s.fields m).2 = s.mapping m := by
  simp only [fields, mapping, Cache.recall]
  cases hc : m.cache.get? s.index with
  | some fields => simp [hc]
  | none =>
    cases s.provider s.index with
    | ok fields => simp [Dict.get?_insert_self]
    | error e => simp [hc]

lemma lookUp_fst (s : Source) (column : String) (m : Memory) :
    (s.lookUp column m).1 = s.reply (s.mapping m) column := by
  simp only [lookUp, reply]
  cases wellKnown? column with
  | some name => rfl
  | none => by_cases ht : s.trusting <;> simp [ht, fields_fst]

lemma mapping_lookUp (s : Source) (column : String) (m : Memory) :
    s.mapping (s.lookUp column m).2 = s.mapping m := by
  simp only [lookUp]
  cases wellKnown? column with
  | some name => rfl
  | none => by_cases ht : s.trusting <;> simp [ht, mapping_fields]

lemma mapping_eq_error_iff {s : Source} {m : Memory} {e : Failure} :
    s.mapping m = .error e ↔ m.cache.get? s.index = none ∧ s.provider s.index = .error e := by
  rw [mapping]
  cases m.cache.get? s.index <;> simp

lemma reply_eq_error {s : Source} {m : Memory} {column : String} {e : Failure}
    (h : s.reply (s.mapping m) column = .error e) :
    e = .noExactField column s.index ∨ s.provider s.index = .error e := by
  rw [reply] at h
  cases hw : wellKnown? column with
  | some name =>
    rw [hw] at h
    cases h
  | none =>
    rw [hw] at h
    by_cases ht : s.trusting
    · simp [ht] at h
    · simp only [ht] at h
      cases hm : s.mapping m with
      | error e' =>
        rw [hm] at h
        obtain rfl := Except.error.inj h
        exact .inr (mapping_eq_error_iff.mp hm).2
      | ok fields =>
        rw [hm] at h
        change s.pathIn column fields = .error e at h
        rw [pathIn] at h
        split at h
        · cases h
        · exact .inl (Except.error.inj h).symm

end Source

namespace Lookup

variable {α β : Type}

def eval (reply : String → Except Failure String) : Lookup α → Except Failure α
  | done r => r
  | column name next => (next (reply name)).eval reply

def overridden (overrides : Dict String) (reply : String → Except Failure String)
    (column : String) : Except Failure String :=
  match Source.wellKnown? column, overrides.get? column with
  | none, some concrete => .ok concrete
  | _, _ => reply column

lemma run_fst (s : Source) (l : Lookup α) (m : Memory) :
    (l.run s m).1 = l.eval (s.reply (s.mapping m)) := by
  induction l generalizing m with
  | done r => rfl
  | column name next ih =>
    change ((next (s.lookUp name m).1).run s (s.lookUp name m).2).1 = _
    rw [ih, s.mapping_lookUp, s.lookUp_fst, eval]

lemma eval_bind (reply : String → Except Failure String) (l : Lookup α) (f : α → Lookup β) :
    (l >>= f).eval reply = l.eval reply >>= fun x => (f x).eval reply := by
  induction l with
  | done r => cases r <;> rfl
  | column name next ih => exact ih (reply name)

lemma eval_overriding (overrides : Dict String) (reply : String → Except Failure String)
    (l : Lookup α) : (l.overriding overrides).eval reply = l.eval (overridden overrides reply) := by
  induction l with
  | done r => rfl
  | column name next ih =>
    rw [overriding, eval, overridden]
    cases Source.wellKnown? name with
    | some _ => exact ih _
    | none => cases overrides.get? name <;> exact ih _

end Lookup

structure Context where
  source : Source
  memory : Memory := {}
  settings : Settings := {}
  overrides : Dict String := .empty

namespace Context

variable {α β : Type}

def result (x : Context) (c : Compile α) : Except Failure α :=
  ((c.overriding x.overrides x.settings).run x.source x.memory).1

def reply (x : Context) : String → Except Failure String :=
  Lookup.overridden x.overrides (x.source.reply (x.source.mapping x.memory))

lemma reply_eq_error {x : Context} {column : String} {e : Failure} (h : x.reply column = .error e) :
    e = .noExactField column x.source.index ∨ x.source.provider x.source.index = .error e := by
  rw [reply, Lookup.overridden] at h
  split at h
  · cases h
  · exact Source.reply_eq_error h

lemma result_eq_eval (x : Context) (c : Compile α) : x.result c = (c x.settings).eval x.reply := by
  rw [result, Lookup.run_fst, Compile.overriding, Lookup.eval_overriding, reply]

@[simp] lemma result_pure (x : Context) (a : α) : x.result (pure a) = .ok a := rfl

@[simp] lemma result_fail (x : Context) (e : Failure) :
    x.result (Compile.fail e : Compile α) = .error e := rfl

@[simp] lemma result_bind (x : Context) (c : Compile α) (f : α → Compile β) :
    x.result (c >>= f) = x.result c >>= fun a => x.result (f a) := by
  simp only [result_eq_eval]
  exact Lookup.eval_bind x.reply (c x.settings) fun a => f a x.settings

lemma result_read (x : Context) (f : Settings → Compile α) :
    x.result (MonadReader.read >>= f) = x.result (f x.settings) := by
  rw [result_eq_eval, result_eq_eval]
  rfl

lemma result_bind_eq_ok (x : Context) (c : Compile α) (f : α → Compile β) (b : β) :
    x.result (c >>= f) = .ok b ↔ ∃ a, x.result c = .ok a ∧ x.result (f a) = .ok b := by
  rw [result_bind]
  cases x.result c with
  | ok a => simp [bind, Except.bind]
  | error e => simp [bind, Except.bind]

lemma result_mapM_eq_ok {x : Context} {f : α → Compile β} {as : List α} {bs : List β} :
    x.result (as.mapM f) = .ok bs ↔ List.Forall₂ (fun a b => x.result (f a) = .ok b) as bs := by
  induction as generalizing bs with
  | nil => simp [eq_comm]
  | cons a as ih =>
    simp only [List.mapM_cons, result_bind_eq_ok, result_pure, Except.ok.injEq, ih,
      List.forall₂_cons_left_iff]
    constructor
    · rintro ⟨b, hb, bs, hbs, rfl⟩
      exact ⟨b, bs, hb, hbs, rfl⟩
    · rintro ⟨b, bs, hb, hbs, rfl⟩
      exact ⟨b, hb, bs, hbs, rfl⟩

lemma result_bind_eq_error (x : Context) (c : Compile α) (f : α → Compile β) (e : Failure) :
    x.result (c >>= f) = .error e ↔
      x.result c = .error e ∨ ∃ a, x.result c = .ok a ∧ x.result (f a) = .error e := by
  rw [result_bind]
  cases x.result c with
  | ok a => simp [bind, Except.bind]
  | error e => simp [bind, Except.bind]

lemma result_mapM_eq_error {x : Context} {f : α → Compile β} {as : List α} {e : Failure} :
    x.result (as.mapM f) = .error e ↔ ∃ front a back bs, as = front ++ a :: back ∧
      List.Forall₂ (fun a b => x.result (f a) = .ok b) front bs ∧ x.result (f a) = .error e := by
  induction as with
  | nil => simp
  | cons a as ih =>
    rw [List.mapM_cons, result_bind_eq_error]
    simp only [result_bind_eq_error, result_pure, reduceCtorEq, and_false, exists_false, or_false,
      ih]
    constructor
    · rintro (he | ⟨b, hb, front, a', back, bs, rfl, hbs, he⟩)
      · exact ⟨[], a, as, [], rfl, .nil, he⟩
      · exact ⟨a :: front, a', back, b :: bs, rfl, .cons hb hbs, he⟩
    · rintro ⟨front, a', back, bs, heq, hbs, he⟩
      cases hbs with
      | nil =>
        obtain ⟨rfl, -⟩ := List.cons.inj heq
        exact .inl he
      | cons hb hbs =>
        obtain ⟨rfl, rfl⟩ := List.cons.inj heq
        exact .inr ⟨_, hb, _, a', back, _, rfl, hbs, he⟩

end Context

end SearchCompiler
