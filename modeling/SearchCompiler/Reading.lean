import SearchCompiler.Failure

/-!
Reading a value whose parts stand at places of their own. Each part is read for itself, and of
several faults the one at the lowest place counts, whatever the order in which the parts are put
together.
-/

namespace SearchCompiler

abbrev Read := Except Failure

inductive Reading (α : Type) where
  | value (x : α)
  | fault (place : Nat) (cause : Failure)

namespace Reading

variable {α β : Type}

def ofRead (place : Nat) : Read α → Reading α
  | .ok x => .value x
  | .error e => .fault place e

def toRead : Reading α → Read α
  | .value x => .ok x
  | .fault _ e => .error e

def map (f : α → β) : Reading α → Reading β
  | .value x => .value (f x)
  | .fault place e => .fault place e

def seq : Reading (α → β) → Reading α → Reading β
  | .value f, x => x.map f
  | .fault place e, .value _ => .fault place e
  | .fault place e, .fault place' e' =>
    if place' < place then .fault place' e' else .fault place e

instance : Applicative Reading where
  pure := .value
  map := map
  seq f x := seq f (x ())

end Reading

end SearchCompiler
