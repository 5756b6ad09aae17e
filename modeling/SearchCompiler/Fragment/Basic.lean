import SearchCompiler.Fragment.Allowed
import SearchCompiler.Json.Basic

/-!
Pieces that fragments of the engine's query language are made of: an object of one member that names
the kind of fragment, and inside it fixed members over the allowed options.
-/

namespace SearchCompiler.Fragment

def keep (allowed : List String) (options : Options) : Options :=
  options.filter fun o => allowed.contains o.1

def body (outer : String) (members : Options) : Json :=
  .single outer (.object members)

def withMember (key : String) (value : Json) (options : Options) : Options :=
  Entries.insert key value options

def withDefault (key : String) (value : Json) (options : Options) : Options :=
  if Entries.hasKey key options then options else Entries.insert key value options

def onField (outer field valueKey : String) (value : Json) (options : Options) : Json :=
  if options.isEmpty then body outer [(field, value)]
  else body outer [(field, .object (withMember valueKey value options))]

end SearchCompiler.Fragment
