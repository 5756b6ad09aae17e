import SearchCompiler.Index.Source
import SearchCompiler.Settings

/-!
Computations that look columns up. A look-up names a column and goes on with what is found, so a
computation touches mappings in no other way; running it against a source gives its result and the
memory left behind, whether it succeeds or fails.
-/

namespace SearchCompiler

inductive Lookup (α : Type) where
  | done (result : Except Failure α)
  | column (name : String) (next : Except Failure String → Lookup α)

namespace Lookup

variable {α β : Type}

protected def bind (l : Lookup α) (f : α → Lookup β) : Lookup β :=
  match l with
  | done (.ok x) => f x
  | done (.error e) => done (.error e)
  | column name next => column name fun r => (next r).bind f

instance : Monad Lookup where
  pure x := done (.ok x)
  bind := Lookup.bind

def attempt : Lookup α → Lookup (Except Failure α)
  | done r => done (.ok r)
  | column name next => column name fun r => (next r).attempt

/-- Puts concrete columns in the place of logical ones, but for those that are well known. -/
def overriding (overrides : Dict String) : Lookup α → Lookup α
  | done r => done r
  | column name next =>
    match Source.wellKnown? name, overrides.get? name with
    | none, some concrete => (next (.ok concrete)).overriding overrides
    | _, _ => column name fun r => (next r).overriding overrides

def run (s : Source) : Lookup α → Memory → Except Failure α × Memory
  | done r, m => (r, m)
  | column name next, m =>
    let (r, m) := s.lookUp name m
    (next r).run s m

theorem pure_bind (x : α) (f : α → Lookup β) : (pure x : Lookup α) >>= f = f x := rfl

theorem bind_pure (l : Lookup α) : l >>= pure = l := by
  induction l with
  | done r => cases r <;> rfl
  | column name next ih => exact congrArg (column name) (funext ih)

theorem bind_assoc {γ : Type} (l : Lookup α) (f : α → Lookup β) (g : β → Lookup γ) :
    l >>= f >>= g = l >>= fun x => f x >>= g := by
  induction l with
  | done r => cases r <;> rfl
  | column name next ih => exact congrArg (column name) (funext ih)

instance : LawfulMonad Lookup :=
  LawfulMonad.mk' Lookup bind_pure pure_bind bind_assoc

theorem run_bind (s : Source) (l : Lookup α) (f : α → Lookup β) (m : Memory) :
    (l >>= f).run s m =
      match l.run s m with
      | (.ok x, m) => (f x).run s m
      | (.error e, m) => (.error e, m) := by
  induction l generalizing m with
  | done r => cases r <;> rfl
  | column name next ih =>
    change (next _ >>= f).run s _ = _
    exact ih _ _

end Lookup

abbrev Compile (α : Type) := ReaderT Settings Lookup α

namespace Compile

variable {α : Type}

def fail (e : Failure) : Compile α := fun _ => .done (.error e)

def ofRead (r : Read α) : Compile α := fun _ => .done r

def lookUp (column : String) : Compile String := fun _ => .column column .done

def lookUpEach (columns : List String) : Compile (List (Except Failure String)) := fun settings =>
  columns.mapM fun column => (lookUp column settings).attempt

def overriding (overrides : Dict String) (c : Compile α) : Compile α := fun settings =>
  (c settings).overriding overrides

end Compile

end SearchCompiler
