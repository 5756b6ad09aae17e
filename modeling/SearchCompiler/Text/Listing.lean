import SearchCompiler.Text
import SearchCompiler.Text.Hidden

/-!
Lists of texts for people to read: each text in quotes, and what would not show in it by its code.
-/

namespace SearchCompiler.Text

def codeEscape (c : Char) : List Char :=
  "\\u\x7b".toList ++ Nat.toDigits 16 c.toNat ++ ['\x7d']

def shown (c : Char) : List Char :=
  if c = '"' then ['\\', '"']
  else if c = '\\' then ['\\', '\\']
  else if c = '\n' then ['\\', 'n']
  else if c = '\r' then ['\\', 'r']
  else if c = '\t' then ['\\', 't']
  else if c = '\x00' then ['\\', '0']
  else if isHidden c then codeEscape c
  else [c]

def showQuoted (s : String) : String :=
  String.ofList ('"' :: s.toList.flatMap shown ++ ['"'])

def showList (ss : List String) : String :=
  "[" ++ ", ".intercalate (ss.map showQuoted) ++ "]"

end SearchCompiler.Text
