import SearchCompiler.Number.Binary64
import SearchCompiler.Text

/-!
The shortest decimal that reads back as a given binary64 number: the fewest digits, and of those
the nearest to the number, a tie to the even digit.
-/

namespace SearchCompiler.Binary64

structure Decimal where
  digits : Nat
  exponent : Int
  deriving DecidableEq

def powerOfTen (exponent : Int) : Nat × Nat :=
  (Nat.pow 10 exponent.toNat, Nat.pow 10 (-exponent).toNat)

structure Span where
  low : Nat
  high : Nat
  den : Nat
  closed : Bool

/--
The magnitudes that round to `x`, in quarters of its last place: half a place to each side, but only
a quarter downwards where the place below is half as wide.
-/
def span (x : Binary64) : Span :=
  let m := x.significand
  let below := if m = leadingBit && x.exponent > -1074 then 1 else 2
  let (scale, den) := scaled 1 (x.exponent - 2)
  ⟨(4 * m - below) * scale, (4 * m + 2) * scale, den, m % 2 == 0⟩

def Span.holds (s : Span) (n : Nat) (k : Int) : Bool :=
  let (p, q) := powerOfTen k
  let value := n * p * s.den
  if s.closed then s.low * q ≤ value && value ≤ s.high * q
  else s.low * q < value && value < s.high * q

def decimalLength (n : Nat) : Nat :=
  (toString n).length

def leadingExponent (num den : Nat) : Int :=
  let guess : Int := (decimalLength num : Int) - decimalLength den
  let (p, q) := powerOfTen guess
  if den * p ≤ num * q then guess else guess - 1

def nearestOnGrid (s : Span) (num den : Nat) (k : Int) : Option Nat :=
  let (p, q) := powerOfTen k
  let down := num * q / (den * p)
  let rest := num * q % (den * p)
  match s.holds down k, s.holds (down + 1) k with
  | true, false => some down
  | false, true => some (down + 1)
  | false, false => none
  | true, true =>
    if 2 * rest < den * p then some down
    else if den * p < 2 * rest then some (down + 1)
    else some (down + down % 2)

/-- Seventeen digits always read back, so the search never runs dry. -/
def shortest (x : Binary64) : Decimal :=
  if x.isZero then ⟨0, 0⟩
  else
    let (num, den) := x.quotient
    let lead := leadingExponent num den
    ((List.range 17).findSome? fun (i : Nat) =>
      (nearestOnGrid x.span num den (lead - i)).map fun n => Decimal.mk n (lead - i)).getD ⟨0, 0⟩

structure Style where
  least : Int
  greatest : Int
  plusSign : String
  minusSign : String
  wholeSuffix : String

def Style.json : Style := ⟨-5, 15, "e+", "e-", ".0"⟩

def zeros (n : Nat) : String :=
  String.ofList (List.replicate n '0')

def Decimal.significant (d : Decimal) : List Char × Int :=
  let text := (toString d.digits).toList
  let kept := (text.reverse.dropWhile (· == '0')).reverse
  (if kept.isEmpty then ['0'] else kept, d.exponent + (text.length - 1 : Nat))

def Decimal.write (style : Style) (d : Decimal) : String :=
  let (digits, lead) := d.significant
  if style.least ≤ lead ∧ lead ≤ style.greatest then
    if lead < 0 then "0." ++ zeros (-lead - 1).toNat ++ String.ofList digits
    else
      let whole := digits.take (lead.toNat + 1)
      let fraction := digits.drop (lead.toNat + 1)
      String.ofList whole ++ zeros (lead.toNat + 1 - whole.length) ++
        (if fraction.isEmpty then style.wholeSuffix else "." ++ String.ofList fraction)
  else
    let mantissa :=
      match digits with
      | [] => ""
      | [d] => String.ofList [d]
      | d :: ds => String.ofList (d :: '.' :: ds)
    mantissa ++ (if lead < 0 then style.minusSign else style.plusSign) ++ toString lead.natAbs

def write (style : Style) (x : Binary64) : String :=
  (if x.negative then "-" else "") ++ x.shortest.write style

end SearchCompiler.Binary64
