import SearchCompiler.Aggregation.Catalog

/-!
The aggregation section of a request. An aggregation compiles to its own fragment, and its children
go under `aggs` of that; siblings are the members of one object, each under its own key.
-/

namespace SearchCompiler.Aggregation

def attach (key : String) (children : Options) : Json → Compile Json
  | .object members => return .object (Entries.insert "aggs" (.object children) members)
  | _ => Compile.fail (.descriptor (.fragmentNotObject key))

mutual

def compileWith (catalog : Catalog) (compileOther : Aggregation → Compile Json) :
    Aggregation → Compile Json
  | ⟨key, type, args, options, children⟩ => do
    match catalog.method? type with
    | none => Compile.fail (.unknownAggregation type)
    | some method =>
      if !children.isEmpty && catalog.isMetric type then
        Compile.fail (.descriptor (.metricWithChildren key type))
      else
        let fragment ← method compileOther ⟨key, type, args, options, children⟩
        if children.isEmpty then return fragment
        else attach key (← siblingsWith catalog compileOther [] children) fragment

def siblingsWith (catalog : Catalog) (compileOther : Aggregation → Compile Json)
    (compiled : Options) : List Aggregation → Compile Options
  | [] => return compiled
  | a :: as => do
    if Entries.hasKey a.key compiled then
      Compile.fail (.descriptor (.duplicateAggregation a.key))
    else
      let fragment ← compileWith catalog compileOther a
      siblingsWith catalog compileOther (Entries.insert a.key fragment compiled) as

end

/-- Compiles for methods that delegate, at most `depth` times in a row. -/
def compileDelegated (catalog : Catalog) : Nat → Aggregation → Compile Json
  | 0 => fun a => Compile.fail (.descriptor (.endlessDelegation a.type))
  | depth + 1 => compileWith catalog (compileDelegated catalog depth)

/-- Delegation is cut off after as many calls as there are types. By then methods that only change
the type have come round; methods that change more are cut off even if they would end. -/
def compile (a : Aggregation) (catalog : Catalog) : Compile Json :=
  compileWith catalog (compileDelegated catalog catalog.size) a

def compileList (catalog : Catalog) (as : List Aggregation) : Compile Options :=
  siblingsWith catalog (compileDelegated catalog catalog.size) [] as

end SearchCompiler.Aggregation
