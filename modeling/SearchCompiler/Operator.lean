import SearchCompiler.Text

/-!
Operators of a condition: equality, patterns, and one-sided bounds.
-/

namespace SearchCompiler

inductive Bound where
  | gt | gte | lt | lte
  deriving DecidableEq

namespace Bound

def symbol : Bound → String
  | .gt => ">"
  | .gte => ">="
  | .lt => "<"
  | .lte => "<="

def member : Bound → String
  | .gt => "gt"
  | .gte => "gte"
  | .lt => "lt"
  | .lte => "lte"

end Bound

inductive Operator where
  | eq | notEq | like | notLike
  | bound (b : Bound)
  deriving DecidableEq

namespace Operator

def name : Operator → String
  | .eq => "="
  | .notEq => "!="
  | .like => "like"
  | .notLike => "not like"
  | .bound b => b.symbol

def isComplement : Operator → Bool
  | .notEq | .notLike => true
  | _ => false

def bound? : Operator → Option Bound
  | .bound b => some b
  | _ => none

def normalized (text : String) : String :=
  " ".intercalate ((Text.words (text.toList.map Text.lower)).map String.ofList)

def ofText? (text : String) : Option Operator :=
  match normalized text with
  | "=" | "==" => some .eq
  | "!=" | "<>" => some .notEq
  | ">" => some (.bound .gt)
  | ">=" => some (.bound .gte)
  | "<" => some (.bound .lt)
  | "<=" => some (.bound .lte)
  | "like" => some .like
  | "not like" => some .notLike
  | _ => none

end Operator

end SearchCompiler
