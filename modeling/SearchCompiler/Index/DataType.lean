/-!
Declared field types of an index mapping, and what each one allows a query to do.
-/

namespace SearchCompiler

/-- `other` holds every name that has no constructor of its own. -/
inductive DataType where
  | text | matchOnlyText | keyword | constantKeyword | wildcard
  | long | integer | short | byte | double | float | halfFloat | scaledFloat | unsignedLong
  | boolean | date | dateNanos | ip | binary | geoPoint | geoShape
  | object | nested | flattened
  | other (name : String)
  deriving DecidableEq

namespace DataType

def name : DataType → String
  | .text => "text"
  | .matchOnlyText => "match_only_text"
  | .keyword => "keyword"
  | .constantKeyword => "constant_keyword"
  | .wildcard => "wildcard"
  | .long => "long"
  | .integer => "integer"
  | .short => "short"
  | .byte => "byte"
  | .double => "double"
  | .float => "float"
  | .halfFloat => "half_float"
  | .scaledFloat => "scaled_float"
  | .unsignedLong => "unsigned_long"
  | .boolean => "boolean"
  | .date => "date"
  | .dateNanos => "date_nanos"
  | .ip => "ip"
  | .binary => "binary"
  | .geoPoint => "geo_point"
  | .geoShape => "geo_shape"
  | .object => "object"
  | .nested => "nested"
  | .flattened => "flattened"
  | .other name => name

def ofName : String → DataType
  | "text" => .text
  | "match_only_text" => .matchOnlyText
  | "keyword" => .keyword
  | "constant_keyword" => .constantKeyword
  | "wildcard" => .wildcard
  | "long" => .long
  | "integer" => .integer
  | "short" => .short
  | "byte" => .byte
  | "double" => .double
  | "float" => .float
  | "half_float" => .halfFloat
  | "scaled_float" => .scaledFloat
  | "unsigned_long" => .unsignedLong
  | "boolean" => .boolean
  | "date" => .date
  | "date_nanos" => .dateNanos
  | "ip" => .ip
  | "binary" => .binary
  | "geo_point" => .geoPoint
  | "geo_shape" => .geoShape
  | "object" => .object
  | "nested" => .nested
  | "flattened" => .flattened
  | name => .other name

def isUnlisted : DataType → Bool
  | .other _ => true
  | _ => false

def isAnalysed : DataType → Bool
  | .text | .matchOnlyText | .binary => true
  | _ => false

def isBranch : DataType → Bool
  | .object | .nested => true
  | _ => false

def isExact (t : DataType) : Bool :=
  !t.isAnalysed && !t.isBranch

def holdsNumbers : DataType → Bool
  | .long | .integer | .short | .byte | .double | .float | .halfFloat | .scaledFloat
  | .unsignedLong => true
  | _ => false

def holdsDates : DataType → Bool
  | .date | .dateNanos => true
  | _ => false

def holdsGeometry : DataType → Bool
  | .geoPoint | .geoShape => true
  | _ => false

end DataType

end SearchCompiler
