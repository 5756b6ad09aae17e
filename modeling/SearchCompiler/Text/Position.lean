import SearchCompiler.Text

/-!
The position in a document that a message may end in, as in `no such thing at line 3 column 14`.
Lines count from one; line zero is no position at all and is left unwritten.
-/

namespace SearchCompiler.Text

def splitLast? (word : String) : List Char → Option (List Char × List Char)
  | [] => none
  | c :: cs =>
    match splitLast? word cs with
    | some (front, rest) => some (c :: front, rest)
    | none => (after word (c :: cs)).map fun rest => ([], rest)

def count? (cs : List Char) : Option Nat :=
  let n := number (cs.map digit)
  if !cs.isEmpty && n < UInt64.size then some n else none

structure Position where
  line : Nat
  column : Nat
  deriving DecidableEq

namespace Position

def lineWord : String := " at line "

def columnWord : String := " column "

def ofText? (cs : List Char) : Option Position := do
  let rest ← after columnWord (cs.dropWhile isDigit)
  if !rest.all isDigit then none
  else return ⟨← count? (cs.takeWhile isDigit), ← count? rest⟩

def text (p : Position) : String :=
  if p.line = 0 then ""
  else lineWord ++ toString p.line ++ columnWord ++ toString p.column

end Position

def splitPosition? (message : String) : Option (String × Position) := do
  let (front, rest) ← splitLast? Position.lineWord message.toList
  return (String.ofList front, ← Position.ofText? rest)

def plainPosition (message : String) : String :=
  match splitPosition? message with
  | some (front, p) => front ++ p.text
  | none => message

end SearchCompiler.Text
