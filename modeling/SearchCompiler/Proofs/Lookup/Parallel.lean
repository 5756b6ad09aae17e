import SearchCompiler.Proofs.Lookup.Evaluation

/-! Two runs of a computation under different answers and settings. As long as every look-up
succeeds in both, they look up the same columns and meet the same faults of the caller. -/

namespace SearchCompiler

namespace Lookup

variable {α β : Type} {R : α → α → Prop} {S : β → β → Prop}

/-- Both give related values or one fault of the caller, after the same look-ups. The first stops at
a look-up that fails. -/
inductive Parallel (R : α → α → Prop) : Lookup α → Lookup α → Prop
  | value {x y} : R x y → Parallel R (done (.ok x)) (done (.ok y))
  | fault {e} : e.isByCaller = true → Parallel R (done (.error e)) (done (.error e))
  | column {name next next'} : (∀ e, next (.error e) = done (.error e)) →
      (∀ a b, Parallel R (next (.ok a)) (next' (.ok b))) →
      Parallel R (column name next) (column name next')

lemma Parallel.mono {l l' : Lookup α} {Q : α → α → Prop} (h : Parallel R l l')
    (hQ : ∀ x y, R x y → Q x y) : Parallel Q l l' := by
  induction h with
  | value hR => exact .value (hQ _ _ hR)
  | fault he => exact .fault he
  | column hs _ ih => exact .column hs ih

lemma Parallel.bind {l l' : Lookup α} {f g : α → Lookup β} (h : Parallel R l l')
    (hf : ∀ x y, R x y → Parallel S (f x) (g y)) : Parallel S (l >>= f) (l' >>= g) := by
  induction h with
  | value hR => exact hf _ _ hR
  | fault he => exact .fault he
  | @column name next next' hs _ ih =>
    refine .column (fun e => ?_) ih
    change next (.error e) >>= f = _
    rw [hs]
    rfl

lemma Parallel.overriding {l l' : Lookup α} (overrides : Dict String) (h : Parallel R l l') :
    Parallel R (l.overriding overrides) (l'.overriding overrides) := by
  induction h with
  | value hR => exact .value hR
  | fault he => exact .fault he
  | @column name next next' hs _ ih =>
    have hc : Parallel R (.column name fun r => (next r).overriding overrides)
        (.column name fun r => (next' r).overriding overrides) := by
      refine .column (fun e => ?_) ih
      rw [hs]
      rfl
    simp only [Lookup.overriding]
    cases Source.wellKnown? name with
    | some _ => exact hc
    | none =>
      cases overrides.get? name with
      | some concrete => exact ih concrete concrete
      | none => exact hc

variable {l l' : Lookup α}

lemma Parallel.isByCaller (h : Parallel R l l') (answer : String → String) {e : Failure}
    (he : l'.eval (fun name => .ok (answer name)) = .error e) : e.isByCaller = true := by
  induction h with
  | value _ => cases he
  | fault hc => exact Except.error.inj he ▸ hc
  | @column name _ _ _ _ ih => exact ih (answer name) (answer name) he

lemma Parallel.eval (h : Parallel R l l') (reply : String → Except Failure String)
    (answer : String → String) :
    (∃ x y, l.eval reply = .ok x ∧ l'.eval (fun name => .ok (answer name)) = .ok y ∧ R x y) ∨
    (∃ e, e.isByCaller = true ∧ l.eval reply = .error e ∧
      l'.eval (fun name => .ok (answer name)) = .error e) ∨
    (∃ name e, reply name = .error e ∧ l.eval reply = .error e) := by
  induction h with
  | value hR => exact .inl ⟨_, _, rfl, rfl, hR⟩
  | fault he => exact .inr (.inl ⟨_, he, rfl, rfl⟩)
  | @column name next next' hs _ ih =>
    cases hr : reply name with
    | error e =>
      refine .inr (.inr ⟨name, e, hr, ?_⟩)
      rw [Lookup.eval, hr, hs]
      rfl
    | ok a =>
      rw [Lookup.eval, Lookup.eval, hr]
      exact ih a (answer name)

end Lookup

namespace Compile

variable {α β : Type} {R : α → α → Prop} {S : β → β → Prop}

def Parallel (R : α → α → Prop) (c c' : Compile α) : Prop :=
  ∀ s s' : Settings, Lookup.Parallel R (c s) (c' s')

/-- Neither settings nor answers decide whether the computation fails, but for look-ups that do. -/
def Steady (c : Compile α) : Prop :=
  Parallel (fun _ _ => True) c c

lemma Parallel.pure {x y : α} (h : R x y) : Parallel R (pure x) (pure y) :=
  fun _ _ => .value h

lemma Parallel.fail {e : Failure} (h : e.isByCaller = true) :
    Parallel R (Compile.fail e : Compile α) (Compile.fail e) :=
  fun _ _ => .fault h

lemma Parallel.mono {c c' : Compile α} {Q : α → α → Prop} (h : Parallel R c c')
    (hQ : ∀ x y, R x y → Q x y) : Parallel Q c c' :=
  fun s s' => (h s s').mono hQ

lemma Parallel.bind {c c' : Compile α} {f g : α → Compile β} (h : Parallel R c c')
    (hf : ∀ x y, R x y → Parallel S (f x) (g y)) : Parallel S (c >>= f) (c' >>= g) :=
  fun s s' => (h s s').bind fun x y hR => hf x y hR s s'

lemma Parallel.overriding {c c' : Compile α} (overrides : Dict String) (h : Parallel R c c') :
    Parallel R (c.overriding overrides) (c'.overriding overrides) :=
  fun s s' => (h s s').overriding overrides

lemma Parallel.lookUp {f g : String → Compile β} (name : String)
    (hf : ∀ a b, Parallel S (f a) (g b)) :
    Parallel S (Compile.lookUp name >>= f) (Compile.lookUp name >>= g) :=
  fun s s' => .column (fun _ => rfl) fun a b => hf a b s s'

lemma Parallel.read {f g : Settings → Compile β} (hf : ∀ s s', Parallel S (f s) (g s')) :
    Parallel S (MonadReader.read >>= f) (MonadReader.read >>= g) :=
  fun s s' => hf s s' s s'

lemma Parallel.ofRead {f g : α → Compile β} (r : Read α)
    (hr : ∀ e, r = .error e → e.isByCaller = true) (hf : ∀ x, Parallel S (f x) (g x)) :
    Parallel S (Compile.ofRead r >>= f) (Compile.ofRead r >>= g) := by
  intro s s'
  cases hx : r with
  | ok x => exact hf x s s'
  | error e => exact .fault (hr e hx)

lemma Parallel.mapM {ι : Type} {f g : ι → Compile α} (is : List ι)
    (hf : ∀ i, Parallel R (f i) (g i)) :
    Parallel (List.Forall₂ R) (is.mapM f) (is.mapM g) := by
  induction is with
  | nil => exact .pure .nil
  | cons i is ih =>
    rw [List.mapM_cons, List.mapM_cons]
    refine (hf i).bind fun x y hR => ih.bind fun xs ys hRs => .pure (.cons hR hRs)

end Compile

end SearchCompiler
