import SearchCompiler.Fragment.Basic
import SearchCompiler.Record
import SearchCompiler.Settings

/-!
Highlighting of matches in the hits.
-/

namespace SearchCompiler

structure HighlightedField where
  name : String
  options : Option Options := none

structure Highlight where
  fields : List HighlightedField := []
  options : Options := []
  preTags : Option (List String) := none
  postTags : Option (List String) := none

namespace HighlightedField

def ofJson : Json → Read HighlightedField :=
  Json.toRecord ["name", "options"] fun r =>
    mk <$> r.required "name" Json.toText <*> r.optional "options" Json.toOptions

def toJson (f : HighlightedField) : Json :=
  .record [("name", .string f.name), ("options", .ofOption .object f.options)]

end HighlightedField

namespace Highlight

def addField (h : Highlight) (name : String) (options : Option Options) : Highlight :=
  { h with fields := h.fields ++ [⟨name, options⟩] }

def setOption (h : Highlight) (key : String) (value : Json) : Highlight :=
  { h with options := Entries.insert key value h.options }

def setTags (h : Highlight) (pre post : String) : Highlight :=
  { h with preTags := some [pre], postTags := some [post] }

def ofJson : Json → Read Highlight :=
  Json.toRecord ["fields", "options", "pre_tags", "post_tags"] fun r =>
    mk <$> r.withDefault "fields" [] (Json.toList HighlightedField.ofJson)
      <*> r.withDefault "options" [] Json.toOptions
      <*> r.optional "pre_tags" (Json.toList Json.toText)
      <*> r.optional "post_tags" (Json.toList Json.toText)

def toJson (h : Highlight) : Json :=
  .record [
    ("fields", .array (h.fields.map HighlightedField.toJson)),
    ("options", .object h.options),
    ("pre_tags", .ofOption .ofStrings h.preTags),
    ("post_tags", .ofOption .ofStrings h.postTags)]

def fieldTable (fields : List HighlightedField) : Options :=
  if fields.isEmpty then [("*", .object [])]
  else
    Entries.ofList <| fields.map fun f =>
      (f.name, .object (Fragment.keep Fragment.Allowed.highlight (f.options.getD [])))

def compile (h : Highlight) (settings : Settings) : Json :=
  .object <| Entries.insertAll [
    ("pre_tags", .ofStrings (h.preTags.getD [settings.preTag])),
    ("post_tags", .ofStrings (h.postTags.getD [settings.postTag])),
    ("fields", .object (fieldTable h.fields))]
    (Fragment.keep Fragment.Allowed.highlight h.options)

end Highlight

end SearchCompiler
