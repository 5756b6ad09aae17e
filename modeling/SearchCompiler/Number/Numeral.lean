import SearchCompiler.Number.Shortest

/-!
Numbers as JSON has them: 64-bit integers and binary64 numbers, and the numerals that write them. A
numeral without fraction and exponent that fits a signed or an unsigned 64-bit word is an integer;
every other numeral is a binary64 number, except that `-0` keeps its sign and so is one too.
-/

namespace SearchCompiler

inductive Number where
  | int (n : Int)
  | float (x : Binary64)
  deriving DecidableEq

namespace Number

instance : Inhabited Number := ⟨.int 0⟩

def write : Number → String
  | .int n => toString n
  | .float x => x.write .json

def toBinary64 : Number → Binary64
  | .int n => .ofInt n
  | .float x => x

end Number

structure Numeral where
  negative : Bool
  whole : List Nat
  fraction : List Nat
  exponent : Option Int
  deriving DecidableEq

namespace Numeral

def wordLimit : Nat := Nat.pow 2 64

def absorb (n : Nat) : List Nat → Nat × List Nat
  | [] => (n, [])
  | d :: ds => if 10 * n + d < wordLimit then absorb (10 * n + d) ds else (n, d :: ds)

def sign (negative : Bool) (x : Binary64) : Binary64 :=
  if negative then x.negate else x

def value (t : Numeral) : Option Number :=
  let (n, dropped) := absorb 0 t.whole
  if dropped.isEmpty && t.fraction.isEmpty && t.exponent.isNone then
    if !t.negative then some (.int n)
    else if 0 < n ∧ 2 * n ≤ wordLimit then some (.int (-n))
    else (Binary64.ofDecimal n 0).map fun x => .float (sign t.negative x)
  else
    let (m, unread) := absorb n t.fraction
    let places : Int := (t.fraction.length - unread.length : Nat)
    let shift : Int := dropped.length - places
    (Binary64.ofDecimal m (shift + t.exponent.getD 0)).map fun x => .float (sign t.negative x)

def digits (cs : List Char) : List Nat × List Char :=
  ((cs.takeWhile Text.isDigit).map Text.digit, cs.dropWhile Text.isDigit)

def scanWhole (cs : List Char) : Option (List Nat × List Char) :=
  match digits cs with
  | ([], _) => none
  | (0 :: _ :: _, _) => none
  | (ds, rest) => some (ds, rest)

def scanFraction : List Char → Option (List Nat × List Char)
  | '.' :: cs =>
    match digits cs with
    | ([], _) => none
    | (ds, rest) => some (ds, rest)
  | cs => some ([], cs)

def scanExponentDigits (negative : Bool) (cs : List Char) : Option (Option Int × List Char) :=
  match digits cs with
  | ([], _) => none
  | (ds, rest) =>
    let n : Int := Text.number ds
    some (some (if negative then -n else n), rest)

def scanExponent : List Char → Option (Option Int × List Char)
  | [] => some (none, [])
  | c :: cs =>
    if c = 'e' ∨ c = 'E' then
      match cs with
      | '+' :: rest => scanExponentDigits false rest
      | '-' :: rest => scanExponentDigits true rest
      | rest => scanExponentDigits false rest
    else some (none, c :: cs)

def scan (cs : List Char) : Option (Numeral × List Char) := do
  let (negative, cs) :=
    match cs with
    | '-' :: rest => (true, rest)
    | rest => (false, rest)
  let (whole, cs) ← scanWhole cs
  let (fraction, cs) ← scanFraction cs
  let (exponent, cs) ← scanExponent cs
  some (⟨negative, whole, fraction, exponent⟩, cs)

end Numeral

end SearchCompiler
