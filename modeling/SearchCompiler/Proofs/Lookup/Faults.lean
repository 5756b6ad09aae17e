import SearchCompiler.Proofs.Lookup.Evaluation

/-! What a computation fails with: a failure of its own, or that of a look-up. -/

namespace SearchCompiler

variable {α β : Type} {P : Failure → Prop}

def Compile.FailsWithin (P : Failure → Prop) (c : Compile α) : Prop :=
  ∀ (s : Settings) (reply : String → Except Failure String),
    (∀ name e, reply name = .error e → P e) → ∀ e, (c s).eval reply = .error e → P e

namespace Compile.FailsWithin

lemma pure (x : α) : FailsWithin P (pure x) := by
  intro s reply _ e he
  cases he

lemma fail {e : Failure} (he : P e) : FailsWithin P (Compile.fail e : Compile α) := by
  intro s reply _ e' he'
  obtain rfl := Except.error.inj he'
  exact he

lemma ofRead {r : Read α} (hr : ∀ e, r = .error e → P e) : FailsWithin P (Compile.ofRead r) :=
  fun _ _ _ e he => hr e he

lemma lookUp (column : String) : FailsWithin P (Compile.lookUp column) :=
  fun _ _ hreply e he => hreply column e he

lemma bind {c : Compile α} {f : α → Compile β} (hc : FailsWithin P c)
    (hf : ∀ x, FailsWithin P (f x)) : FailsWithin P (c >>= f) := by
  intro s reply hreply e he
  have hbind : ((c >>= f) s).eval reply =
      (c s).eval reply >>= fun x => (f x s).eval reply := Lookup.eval_bind reply _ _
  rw [hbind] at he
  cases hx : (c s).eval reply with
  | ok x =>
    rw [hx] at he
    exact hf x s reply hreply e he
  | error e' =>
    rw [hx] at he
    obtain rfl := Except.error.inj he
    exact hc s reply hreply e' hx

lemma read {f : Settings → Compile β} (hf : ∀ s, FailsWithin P (f s)) :
    FailsWithin P (MonadReader.read >>= f) :=
  fun s => hf s s

lemma mapM {ι : Type} {f : ι → Compile α} (is : List ι) (hf : ∀ i, FailsWithin P (f i)) :
    FailsWithin P (is.mapM f) := by
  induction is with
  | nil => exact pure []
  | cons i is ih =>
    rw [List.mapM_cons]
    exact (hf i).bind fun x => ih.bind fun xs => pure (x :: xs)

end Compile.FailsWithin

lemma Context.cause_of_result_eq_error {x : Context} {c : Compile α} (hc : c.FailsWithin P)
    (hcolumn : ∀ column, P (.noExactField column x.source.index))
    (hprovider : ∀ e, x.source.provider x.source.index = .error e → P e) {e : Failure}
    (he : x.result c = .error e) : P e := by
  rw [x.result_eq_eval] at he
  refine hc x.settings x.reply ?_ e he
  intro column e' hreply
  rcases x.reply_eq_error hreply with rfl | hp
  · exact hcolumn column
  · exact hprovider e' hp

end SearchCompiler
