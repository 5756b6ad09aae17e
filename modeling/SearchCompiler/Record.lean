import SearchCompiler.Index.DataType
import SearchCompiler.Json.Basic
import SearchCompiler.Reading

/-!
Reading descriptors from JSON. A record is an object, or an array that lists its members in the
record's own order and may stop before members that have a default. Members that a record does not
know are passed over in an object and refused in an array. The first member that cannot be read
decides about the fault; what is missing or left over is noticed behind it.
-/

namespace SearchCompiler

inductive Placement where
  | standalone
  | embedded
  deriving DecidableEq

namespace Json

def toText : Json → Read String
  | .string s => .ok s
  | _ => .error .misshapen

def toBool : Json → Read Bool
  | .bool b => .ok b
  | _ => .error .misshapen

def toCount : Json → Read UInt64
  | .number (.int n) =>
    if 0 ≤ n ∧ n < Numeral.wordLimit then .ok (.ofNat n.toNat) else .error .misshapen
  | _ => .error .misshapen

def toBinary64 : Json → Read Binary64
  | .number n => .ok n.toBinary64
  | _ => .error .misshapen

def toOptions : Json → Read Options
  | .object members => .ok members
  | _ => .error .misshapen

def toAny (v : Json) : Read Json := .ok v

def toOption {α : Type} (read : Json → Read α) : Json → Read (Option α)
  | .null => .ok none
  | v => (read v).map some

def toList {α : Type} (read : Json → Read α) : Json → Read (List α)
  | .array items => items.mapM read
  | _ => .error .misshapen

def toPair : Json → Read (Json × Json)
  | .array [low, high] => .ok (low, high)
  | _ => .error .misshapen

def toDict {α : Type} (read : Json → Read α) : Json → Read (Dict α)
  | .object members => do
    let entries ← members.mapM fun m => do return (m.1, ← read m.2)
    return .ofList entries
  | _ => .error .misshapen

def ofDict {α : Type} (write : α → Json) (d : Dict α) : Json :=
  .object (d.entries.map fun e => (e.1, write e.2))

def ofOption {α : Type} (write : α → Json) : Option α → Json
  | none => .null
  | some x => write x

def ofMembers (members : List (String × Option Json)) : Json :=
  .object (members.foldl (fun ms m => match m.2 with
    | some v => Entries.insert m.1 v ms
    | none => ms) [])

def record (members : Options) : Json :=
  .object (Entries.ofList members)

end Json

namespace Options

variable {α : Type}

def required (members : Options) (name : String) (read : Json → Read α) : Read α :=
  match Entries.get? name members with
  | some v => read v
  | none => .error .misshapen

def withDefault (members : Options) (name : String) (default : α) (read : Json → Read α) : Read α :=
  match Entries.get? name members with
  | some v => read v
  | none => .ok default

def optional (members : Options) (name : String) (read : Json → Read α) : Read (Option α) :=
  withDefault members name none (Json.toOption read)

end Options

structure Record where
  members : Options
  surplus : Bool := false

namespace Record

variable {α : Type}

def listed (names : List String) (items : List Json) : Record where
  members := names.zip items
  surplus := names.length < items.length

def place (r : Record) (name : String) : Nat :=
  r.members.findIdx (·.1 == name)

def member (r : Record) (name : String) (x : Read α) : Reading α :=
  .ofRead (r.place name) x

def required (r : Record) (name : String) (read : Json → Read α) : Reading α :=
  r.member name (r.members.required name read)

def withDefault (r : Record) (name : String) (default : α) (read : Json → Read α) : Reading α :=
  r.member name (r.members.withDefault name default read)

def optional (r : Record) (name : String) (read : Json → Read α) : Reading (Option α) :=
  r.member name (r.members.optional name read)

def finish (r : Record) (x : Reading α) : Read α := do
  let x ← x.toRead
  if r.surplus then .error .misshapen else .ok x

end Record

def Json.toRecord {α : Type} (names : List String) (read : Record → Reading α) : Json → Read α
  | .object members =>
    let r : Record := { members }
    r.finish (read r)
  | .array items =>
    let r := Record.listed names items
    r.finish (read r)
  | _ => .error .misshapen

def Operator.ofJson (v : Json) : Read Operator := do
  let text ← v.toText
  match Operator.ofText? text with
  | some operator => .ok operator
  | none => .error (.misread (.operator text))

def Operator.toJson (operator : Operator) : Json := .string operator.name

def DataType.ofJson (v : Json) : Read DataType := v.toText.map DataType.ofName

end SearchCompiler
