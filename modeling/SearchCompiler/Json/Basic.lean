import SearchCompiler.Dict
import SearchCompiler.Number.Numeral

/-!
JSON values. Objects are lists of members; reading and inserting keep them in ascending key order,
and everything that looks a member up takes the first of its name.
-/

namespace SearchCompiler

inductive Json where
  | null
  | bool (b : Bool)
  | number (n : Number)
  | string (s : String)
  | array (items : List Json)
  | object (members : List (String × Json))

abbrev Options := List (String × Json)

namespace Json

instance : Inhabited Json := ⟨.null⟩

def int (n : Int) : Json := .number (.int n)

def ofUInt64 (n : UInt64) : Json := int n.toNat

def ofStrings (ss : List String) : Json := .array (ss.map .string)

def single (key : String) (value : Json) : Json := .object [(key, value)]

def members : Json → Options
  | .object ms => ms
  | _ => []

def get? (v : Json) (key : String) : Option Json :=
  Entries.get? key v.members

theorem get?_single (name key : String) (value : Json) :
    (single key value).get? name = if name = key then some value else none := rfl

def isNull : Json → Bool
  | .null => true
  | _ => false

def isObject : Json → Bool
  | .object _ => true
  | _ => false

def string? : Json → Option String
  | .string s => some s
  | _ => none

def array? : Json → Option (List Json)
  | .array vs => some vs
  | _ => none

def object? : Json → Option Options
  | .object ms => some ms
  | _ => none

end Json

end SearchCompiler
