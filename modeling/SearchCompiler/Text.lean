/-!
Characters and words. A blank is a character with the Unicode property White_Space; trimming and
splitting into words go by it, and nothing else here looks beyond single characters.
-/

namespace SearchCompiler.Text

def isBlank (c : Char) : Bool :=
  let n := c.toNat
  (0x09 ≤ n && n ≤ 0x0D) || n == 0x20 || n == 0x85 || n == 0xA0 || n == 0x1680 ||
    (0x2000 ≤ n && n ≤ 0x200A) || n == 0x2028 || n == 0x2029 || n == 0x202F || n == 0x205F ||
    n == 0x3000

def skipBlanks (cs : List Char) : List Char :=
  cs.dropWhile isBlank

def trimmed (cs : List Char) : List Char :=
  (skipBlanks (skipBlanks cs).reverse).reverse

def trim (s : String) : String :=
  String.ofList (trimmed s.toList)

def pieces : List Char → List (List Char)
  | [] => [[]]
  | c :: cs =>
    match pieces cs with
    | [] => [[c]]
    | w :: ws => if isBlank c then [] :: w :: ws else (c :: w) :: ws

def words (cs : List Char) : List (List Char) :=
  (pieces cs).filter fun w => !w.isEmpty

def lower (c : Char) : Char :=
  if c = '\u212a' then 'k' else c.toLower

def startsWith (s lead : String) : Bool :=
  lead.toList.isPrefixOf s.toList

def after (word : String) (cs : List Char) : Option (List Char) :=
  if word.toList.isPrefixOf cs then some (cs.drop word.length) else none

def isDigit (c : Char) : Bool :=
  '0' ≤ c && c ≤ '9'

def digit (c : Char) : Nat :=
  c.toNat - '0'.toNat

def number (ds : List Nat) : Nat :=
  ds.foldl (fun n d => 10 * n + d) 0

def padded (width n : Nat) : String :=
  let s := toString n
  String.ofList (List.replicate (width - s.length) '0') ++ s

end SearchCompiler.Text
