import SearchCompiler.Json.Reader
import SearchCompiler.Record

/-!
Settings shared by everything that is compiled for a target, the profiles that preset them, and
their JSON form. A settings text is strict: a setting may not be given twice, while members that
are no settings are passed over whatever they hold.
-/

namespace SearchCompiler

structure Settings where
  trusting : Bool := false
  termsSize : UInt64 := 10
  groupsSize : UInt64 := 1000
  preTag : String := "<em>"
  postTag : String := "</em>"
  distanceUnit : String := "km"
  deriving DecidableEq

inductive Profile where
  | strict | trusting | reporting
  deriving DecidableEq

namespace Settings

def applying (s : Settings) : Profile → Settings
  | .strict => { s with trusting := false }
  | .trusting => { s with trusting := true }
  | .reporting => { s with termsSize := 1000, groupsSize := 10000 }

def setTags (s : Settings) (pre post : String) : Settings :=
  { s with preTag := pre, postTag := post }

def names : List String :=
  ["bypass_mapping_validation", "default_terms_size", "default_distinct_size",
    "highlight_pre_tag", "highlight_post_tag", "geo_distance_unit"]

def ofJson : Json → Read Settings :=
  let standard : Settings := {}
  Json.toRecord names fun r =>
    mk <$> r.withDefault "bypass_mapping_validation" standard.trusting Json.toBool
      <*> r.withDefault "default_terms_size" standard.termsSize Json.toCount
      <*> r.withDefault "default_distinct_size" standard.groupsSize Json.toCount
      <*> r.withDefault "highlight_pre_tag" standard.preTag Json.toText
      <*> r.withDefault "highlight_post_tag" standard.postTag Json.toText
      <*> r.withDefault "geo_distance_unit" standard.distanceUnit Json.toText

def toJson (s : Settings) : Json :=
  .record [
    ("bypass_mapping_validation", .bool s.trusting),
    ("default_terms_size", .ofUInt64 s.termsSize),
    ("default_distinct_size", .ofUInt64 s.groupsSize),
    ("highlight_pre_tag", .string s.preTag),
    ("highlight_post_tag", .string s.postTag),
    ("geo_distance_unit", .string s.distanceUnit)]

def settingsOf : List (List Json.Piece × Json.Written) → Options → Option Options
  | [], found => some found
  | (k, v) :: rest, found => do
    let key ← Json.Written.text? k
    if key ∈ names then
      if Entries.hasKey key found then none
      else settingsOf rest (Entries.insert key (← v.value?) found)
    else settingsOf rest found

def ofWritten : Json.Written → Option Json
  | .object ms => (settingsOf ms []).map .object
  | v => v.value?

def ofText (text : String) : Read Settings :=
  match (Json.Written.ofString? text).bind ofWritten with
  | some v => ofJson v
  | none => .error .misshapen

end Settings

end SearchCompiler
