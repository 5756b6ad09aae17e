import SearchCompiler.Json.Basic

/-!
JSON documents as they are written: every member of an object, also a repeated one, numerals by
their digits, and strings before their escapes are put together. Scanning checks the grammar alone;
what a numeral or a string stands for, and whether it stands for anything, is decided where it is
read.
-/

namespace SearchCompiler.Json

inductive Piece where
  | char (c : Char)
  | unit (n : Nat)
  deriving DecidableEq

inductive Written where
  | null
  | bool (b : Bool)
  | number (t : Numeral)
  | string (ps : List Piece)
  | array (items : List Written)
  | object (members : List (List Piece × Written))

namespace Written

def isSpace (c : Char) : Bool :=
  c == ' ' || c == '\n' || c == '\t' || c == '\r'

def skipSpace (cs : List Char) : List Char :=
  cs.dropWhile isSpace

def hexValue (c : Char) : Option Nat :=
  if '0' ≤ c ∧ c ≤ '9' then some (c.toNat - '0'.toNat)
  else if 'a' ≤ c ∧ c ≤ 'f' then some (c.toNat - 'a'.toNat + 10)
  else if 'A' ≤ c ∧ c ≤ 'F' then some (c.toNat - 'A'.toNat + 10)
  else none

def escapeOf (c : Char) : Option Char :=
  if c = '"' ∨ c = '\\' ∨ c = '/' then some c
  else if c = 'b' then some '\x08'
  else if c = 'f' then some '\x0c'
  else if c = 'n' then some '\n'
  else if c = 'r' then some '\r'
  else if c = 't' then some '\t'
  else none

def scanString : List Char → Option (List Piece × List Char)
  | [] => none
  | '"' :: cs => some ([], cs)
  | '\\' :: 'u' :: a :: b :: c :: d :: cs => do
    let n := 4096 * (← hexValue a) + 256 * (← hexValue b) + 16 * (← hexValue c) + (← hexValue d)
    let (ps, rest) ← scanString cs
    some (.unit n :: ps, rest)
  | '\\' :: c :: cs => do
    let e ← escapeOf c
    let (ps, rest) ← scanString cs
    some (.char e :: ps, rest)
  | c :: cs => do
    if c.toNat < 0x20 ∨ c = '\\' then none
    let (ps, rest) ← scanString cs
    some (.char c :: ps, rest)

mutual

def scanValue : Nat → List Char → Option (Written × List Char)
  | 0, _ => none
  | depth + 1, cs =>
    match skipSpace cs with
    | [] => none
    | '"' :: rest => do
      let (ps, rest) ← scanString rest
      some (.string ps, rest)
    | '[' :: rest =>
      match skipSpace rest with
      | ']' :: rest => some (.array [], rest)
      | rest => do
        let (vs, rest) ← scanItems depth rest
        some (.array vs, rest)
    | '\x7b' :: rest =>
      match skipSpace rest with
      | '\x7d' :: rest => some (.object [], rest)
      | rest => do
        let (ms, rest) ← scanMembers depth rest
        some (.object ms, rest)
    | 'n' :: rest => (Text.after "ull" rest).map fun rest => (.null, rest)
    | 't' :: rest => (Text.after "rue" rest).map fun rest => (.bool true, rest)
    | 'f' :: rest => (Text.after "alse" rest).map fun rest => (.bool false, rest)
    | cs => (Numeral.scan cs).map fun (t, rest) => (.number t, rest)

def scanItems : Nat → List Char → Option (List Written × List Char)
  | 0, _ => none
  | depth + 1, cs => do
    let (v, rest) ← scanValue depth cs
    match skipSpace rest with
    | ']' :: rest => some ([v], rest)
    | ',' :: rest =>
      let (vs, rest) ← scanItems depth rest
      some (v :: vs, rest)
    | _ => none

def scanMembers : Nat → List Char → Option (List (List Piece × Written) × List Char)
  | 0, _ => none
  | depth + 1, cs =>
    match skipSpace cs with
    | '"' :: rest => do
      let (key, rest) ← scanString rest
      match skipSpace rest with
      | ':' :: rest =>
        let (v, rest) ← scanValue depth rest
        match skipSpace rest with
        | '\x7d' :: rest => some ([(key, v)], rest)
        | ',' :: rest =>
          let (ms, rest) ← scanMembers depth rest
          some ((key, v) :: ms, rest)
        | _ => none
      | _ => none
    | _ => none

end

/-- The document that a whole text writes. Each step of the scan takes a character or ends it. -/
def ofString? (s : String) : Option Written :=
  let cs := s.toList
  match scanValue (2 * cs.length + 2) cs with
  | some (v, rest) => if (skipSpace rest).isEmpty then some v else none
  | none => none

def decodePieces : List Piece → Option (List Char)
  | [] => some []
  | .char c :: ps => (decodePieces ps).map (c :: ·)
  | .unit n :: ps =>
    if n < 0xD800 ∨ 0xDFFF < n then (decodePieces ps).map (Char.ofNat n :: ·)
    else
      match ps with
      | .unit m :: ps =>
        if n < 0xDC00 ∧ 0xDC00 ≤ m ∧ m ≤ 0xDFFF then
          (decodePieces ps).map
            (Char.ofNat (0x10000 + 1024 * (n - 0xD800) + (m - 0xDC00)) :: ·)
        else none
      | _ => none

def text? (ps : List Piece) : Option String :=
  (decodePieces ps).map String.ofList

end Written

end SearchCompiler.Json
