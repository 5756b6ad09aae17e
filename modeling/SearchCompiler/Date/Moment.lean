import SearchCompiler.Date.Calendar

/-!
Moments and the three ways to write one: an RFC 3339 timestamp, a date with a time, and a date. The
last two take blanks in front of every number and years of any length behind a sign.
-/

namespace SearchCompiler

/--
A moment as it was written: seconds from the epoch on the clock it was written for, and what that
clock is ahead of universal time. In a leap second the nanoseconds run on from `10 ^ 9`.
-/
structure Moment where
  localSecond : Int
  nanos : Nat
  offset : Int
  deriving DecidableEq

namespace Moment

def epochSecond (m : Moment) : Int := m.localSecond - m.offset

def millis (m : Moment) : Int := m.epochSecond * 1000 + (m.nanos / 1000000 : Nat)

def day (m : Moment) : CalendarDay := .ofNumber (m.localSecond / 86400)

structure Parts where
  date : CalendarDay
  hour : Nat := 0
  minute : Nat := 0
  second : Nat := 0
  nanos : Nat := 0
  offset : Int := 0

def Parts.moment? (p : Parts) : Option Moment :=
  if p.date.isValid ∧ p.hour < 24 ∧ p.minute < 60 ∧ p.second ≤ 60 then
    let leap := p.second = 60
    some {
      localSecond := p.date.number * 86400 + p.hour * 3600 + p.minute * 60 +
        (if leap then 59 else p.second : Nat)
      nanos := p.nanos + if leap then 1000000000 else 0
      offset := p.offset }
  else none

def scanDigits (width : Nat) (cs : List Char) : Option (Nat × List Char) :=
  let ds := (cs.take width).takeWhile Text.isDigit
  if ds.isEmpty then none else some (Text.number (ds.map Text.digit), cs.drop ds.length)

def scanExactly (width : Nat) (cs : List Char) : Option (Nat × List Char) :=
  let ds := (cs.take width).takeWhile Text.isDigit
  if ds.length = width then some (Text.number (ds.map Text.digit), cs.drop width) else none

def skip (c : Char) : List Char → Option (List Char)
  | [] => none
  | d :: cs => if c = d then some cs else none

def scanPadded (cs : List Char) : Option (Nat × List Char) :=
  scanDigits 2 (Text.skipBlanks cs)

def scanYear (cs : List Char) : Option (Int × List Char) :=
  match Text.skipBlanks cs with
  | '-' :: cs => (scanDigits cs.length cs).map fun (n, rest) => (-n, rest)
  | '+' :: cs => (scanDigits cs.length cs).map fun (n, rest) => (n, rest)
  | cs => (scanDigits 4 cs).map fun (n, rest) => (n, rest)

def scanDate (cs : List Char) : Option (CalendarDay × List Char) := do
  let (year, cs) ← scanYear cs
  let (month, cs) ← scanPadded (← skip '-' cs)
  let (day, cs) ← scanPadded (← skip '-' cs)
  some (⟨year, month, day⟩, cs)

def ofDate? (cs : List Char) : Option Moment := do
  let (date, rest) ← scanDate cs
  if rest.isEmpty then Parts.moment? { date } else none

def ofDateTime? (cs : List Char) : Option Moment := do
  let (date, cs) ← scanDate cs
  let (hour, cs) ← scanPadded (Text.skipBlanks cs)
  let (minute, cs) ← scanPadded (← skip ':' cs)
  let (second, cs) ← scanPadded (← skip ':' cs)
  if cs.isEmpty then Parts.moment? { date, hour, minute, second } else none

def nanosOf (ds : List Nat) : Nat :=
  Text.number (ds.take 9) * Nat.pow 10 (9 - ds.length)

def scanNanos : List Char → Option (Nat × List Char)
  | '.' :: cs =>
    let ds := cs.takeWhile Text.isDigit
    if ds.isEmpty then none
    else some (nanosOf (ds.map Text.digit), cs.dropWhile Text.isDigit)
  | cs => some (0, cs)

def scanOffsetSize (cs : List Char) : Option Int := do
  let (hours, cs) ← scanExactly 2 cs
  let (minutes, cs) ← scanExactly 2 (← skip ':' cs)
  if cs.isEmpty ∧ hours < 24 ∧ minutes < 60 then some (hours * 3600 + minutes * 60) else none

def scanOffset : List Char → Option Int
  | ['Z'] | ['z'] => some 0
  | '+' :: cs => scanOffsetSize cs
  | '-' :: cs | '\u2212' :: cs => (scanOffsetSize cs).map fun s => -s
  | _ => none

def skipSeparator : List Char → Option (List Char)
  | 'T' :: cs | 't' :: cs | ' ' :: cs => some cs
  | _ => none

def ofTimestamp? (cs : List Char) : Option Moment := do
  let (year, cs) ← scanExactly 4 cs
  let (month, cs) ← scanExactly 2 (← skip '-' cs)
  let (day, cs) ← scanExactly 2 (← skip '-' cs)
  let (hour, cs) ← scanExactly 2 (← skipSeparator cs)
  let (minute, cs) ← scanExactly 2 (← skip ':' cs)
  let (second, cs) ← scanExactly 2 (← skip ':' cs)
  let (nanos, cs) ← scanNanos cs
  let offset ← scanOffset cs
  Parts.moment? { date := ⟨year, month, day⟩, hour, minute, second, nanos, offset }

def ofText? (cs : List Char) : Option Moment :=
  ofTimestamp? cs <|> ofDateTime? cs <|> ofDate? cs

def ofMillis? (n : Int) : Option Moment :=
  let m : Moment := ⟨n / 1000, (n % 1000).toNat * 1000000, 0⟩
  if CalendarDay.firstYear ≤ m.day.year ∧ m.day.year ≤ CalendarDay.lastYear then some m else none

end Moment

end SearchCompiler
