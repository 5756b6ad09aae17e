import SearchCompiler.Json.Written

/-!
From a written document to its value. A repeated member takes its last value; a numeral too large
for its type and a string with half a surrogate pair have no value.
-/

namespace SearchCompiler.Json

namespace Written

mutual

def value? : Written → Option Json
  | .null => some .null
  | .bool b => some (.bool b)
  | .number t => t.value.map .number
  | .string ps => (text? ps).map .string
  | .array vs => (values? vs).map .array
  | .object ms => (membersOf? ms []).map .object

def values? : List Written → Option (List Json)
  | [] => some []
  | v :: vs => do
    let x ← value? v
    let xs ← values? vs
    some (x :: xs)

def membersOf? : List (List Piece × Written) → Options → Option Options
  | [], read => some read
  | (k, v) :: ms, read => do
    let key ← text? k
    let x ← value? v
    membersOf? ms (Entries.insert key x read)

end

end Written

def ofString? (s : String) : Option Json :=
  (Written.ofString? s).bind Written.value?

end SearchCompiler.Json
