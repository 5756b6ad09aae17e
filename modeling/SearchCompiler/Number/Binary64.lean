/-!
Finite binary64 numbers as exact values. A magnitude is its rank: the number of smaller magnitudes,
which is also its bit pattern without the sign. Arithmetic takes the exact result as a quotient of
naturals and rounds it once, to nearest, a tie to the even significand.
-/

namespace SearchCompiler

def Binary64.leadingBit : Nat := Nat.pow 2 52

def Binary64.limit : Nat := 2047 * leadingBit

structure Binary64 where
  negative : Bool
  rank : Fin Binary64.limit
  deriving DecidableEq

namespace Binary64

def zero : Binary64 := ⟨false, 0, by decide⟩

instance : Inhabited Binary64 := ⟨zero⟩

/-- Together with `exponent`: the magnitude is `significand * 2 ^ exponent`. -/
def significand (x : Binary64) : Nat :=
  if x.rank.val < leadingBit then x.rank.val else leadingBit + x.rank.val % leadingBit

def exponent (x : Binary64) : Int :=
  (max 1 (x.rank.val / leadingBit) : Nat) - 1075

def isZero (x : Binary64) : Bool :=
  x.rank.val == 0

def negate (x : Binary64) : Binary64 :=
  { x with negative := !x.negative }

def scaled (significand : Nat) (exponent : Int) : Nat × Nat :=
  (significand * Nat.pow 2 exponent.toNat, Nat.pow 2 (-exponent).toNat)

def quotient (x : Binary64) : Nat × Nat :=
  scaled x.significand x.exponent

def roundQuotient (num den : Nat) : Nat :=
  let q := num / den
  let r := num % den
  if 2 * r < den then q else if den < 2 * r then q + 1 else q + q % 2

def roundAt (num den : Nat) (exponent : Int) : Nat :=
  roundQuotient (num * Nat.pow 2 (-exponent).toNat) (den * Nat.pow 2 exponent.toNat)

def reaches (num den : Nat) (exponent : Int) : Bool :=
  den * Nat.pow 2 exponent.toNat ≤ num * Nat.pow 2 (-exponent).toNat

def placeOf (num den : Nat) : Int :=
  let guess : Int := (num.log2 : Int) - den.log2
  let leading := if reaches num den guess then guess else guess - 1
  max (leading - 52) (-1074)

def rankOf (num den : Nat) : Nat :=
  if num = 0 then 0
  else
    let place := placeOf num den
    (place + 1074).toNat * leadingBit + roundAt num den place

def ofQuotient (negative : Bool) (num den : Nat) : Option Binary64 :=
  if h : rankOf num den < limit then some ⟨negative, rankOf num den, h⟩ else none

def ofNat? (n : Nat) : Option Binary64 :=
  ofQuotient false n 1

/-- The nearest number; integers too large for that, which no fixed width holds, give zero. -/
def ofInt (n : Int) : Binary64 :=
  (ofQuotient (n < 0) n.natAbs 1).getD zero

def mul? (x y : Binary64) : Option Binary64 :=
  let (a, b) := x.quotient
  let (c, d) := y.quotient
  ofQuotient (x.negative != y.negative) (a * c) (b * d)

def div? (x y : Binary64) : Option Binary64 :=
  let (a, b) := x.quotient
  let (c, d) := y.quotient
  if c = 0 then none else ofQuotient (x.negative != y.negative) (a * d) (b * c)

def tenTo (k : Nat) : Option Binary64 :=
  if k ≤ 308 then ofNat? (Nat.pow 10 k) else none

/--
`n * 10 ^ k` by the steps of a quick reader: `n` is rounded first, then one multiplication or
division by a rounded power of ten rounds again, and powers below `10 ^ -308` divide in two steps.
Below `10 ^ -616` every 64-bit `n` vanishes.
-/
def ofDecimal (n : Nat) (k : Int) : Option Binary64 := do
  let x ← ofNat? n
  if x.isZero then some x
  else if 0 ≤ k then x.mul? (← tenTo k.toNat)
  else if -308 ≤ k then x.div? (← tenTo (-k).toNat)
  else if -616 ≤ k then (← x.div? (← tenTo 308)).div? (← tenTo (-k - 308).toNat)
  else some zero

end Binary64

end SearchCompiler
