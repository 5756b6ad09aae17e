import SearchCompiler.Date.Moment
import SearchCompiler.Json.Printer
import SearchCompiler.Record

/-!
Date values of descriptors: strings, and integers that count milliseconds.
-/

namespace SearchCompiler.Json

def toMoment : Json → Read Moment
  | .string s =>
    let text := Text.trim s
    match Moment.ofText? text.toList with
    | some m => .ok m
    | none => .error (.notADate text)
  | .number n =>
    match n with
    | .int i =>
      match Moment.ofMillis? i with
      | some m => .ok m
      | none => .error (.notADate n.write)
    | .float _ => .error (.notADate n.write)
  | v => .error (.notADate v.compact)

def toMillis (v : Json) : Read Int := v.toMoment.map Moment.millis

def toDayExpression (v : Json) : Read String :=
  v.toMoment.map fun m => m.day.write ++ "||/d"

end SearchCompiler.Json
