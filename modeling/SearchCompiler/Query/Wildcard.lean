/-!
From `like` patterns, where `%` stands for any text and `_` for any character, to wildcard patterns,
where `*` and `?` do and a backslash takes the next character literally.
-/

namespace SearchCompiler.Wildcard

def ofLikeChar (c : Char) : List Char :=
  if c = '%' then ['*']
  else if c = '_' then ['?']
  else if c = '*' ∨ c = '?' ∨ c = '\\' then ['\\', c]
  else [c]

def ofLike (cs : List Char) : List Char :=
  let pattern := cs.flatMap ofLikeChar
  if '%' ∈ cs then pattern else '*' :: pattern ++ ['*']

def ofLikeText (s : String) : String := String.ofList (ofLike s.toList)

end SearchCompiler.Wildcard
