import SearchCompiler.Proofs.Clause.Leaves
import SearchCompiler.Proofs.Dict

/-! Where a fragment has a member called by the caller, that member is the one thing it is sure to
hold: everything else stands there as it was given, unless it is called the same. -/

namespace SearchCompiler

def Json.under (outer key : String) (v : Json) : Option Json :=
  (v.get? outer).bind (·.get? key)

namespace Fragment

structure Holds (outer name : String) (value : Json) (others : Options) (fragment : Json) :
    Prop where
  named : fragment.under outer name = some value
  unnamed : ∀ key, key ≠ name → fragment.under outer key = Entries.get? key others

lemma under_body (outer key : String) (members : Options) :
    (body outer members).under outer key = Entries.get? key members := by
  simp [Json.under, body, Json.single, Json.get?, Json.members, Entries.get?]

lemma holds_withMember {outer name : String} {value : Json} {members others : Options}
    (h : ∀ key, Entries.get? key members = Entries.get? key others) :
    Holds outer name value others (body outer (withMember name value members)) := by
  refine ⟨?_, ?_⟩
  · rw [under_body]
    exact Entries.get?_insert_self name value members
  · intro key hkey
    rw [under_body, ← h]
    exact Entries.get?_insert_of_ne value members hkey

lemma get?_withDefault (name : String) (value : Json) (options : Options) (key : String) :
    Entries.get? key (withDefault name value options) =
      Entries.get? key (options ++ [(name, value)]) := by
  rw [Entries.get?_append, withDefault, Entries.hasKey]
  cases hname : Entries.get? name options with
  | none =>
    rw [Option.isSome_none, if_neg Bool.false_ne_true, Entries.get?_insert, Entries.get?]
    by_cases hkey : key = name
    · rw [if_pos hkey, hkey, hname, Entries.get?, if_pos rfl, Option.none_or]
    · rw [if_neg hkey, Entries.get?, if_neg hkey, Entries.get?, Option.or_none]
  | some given =>
    rw [Option.isSome_some, if_pos rfl]
    by_cases hkey : key = name
    · rw [hkey, hname, Option.some_or]
    · rw [Entries.get?, if_neg hkey, Entries.get?, Option.or_none]

variable (name : String) (options : Options)

lemma within_holds (point : Coordinates) (distance : String) :
    Holds "geo_distance" name point.toJson
      (("distance", .string distance) :: keep Allowed.distance options)
      (within name point distance options) :=
  holds_withMember (Entries.get?_insert "distance" (Json.string distance) _)

lemma inBox_holds (topLeft bottomRight : Coordinates) :
    Holds "geo_bounding_box" name
      (.record [("top_left", topLeft.toJson), ("bottom_right", bottomRight.toJson)])
      (keep Allowed.box options) (inBox name topLeft bottomRight options) :=
  holds_withMember fun _ => rfl

lemma functionScore_holds (query params : Json) :
    Holds "function_score" name params (("query", query) :: keep Allowed.functionScore options)
      (functionScore query name params options) :=
  holds_withMember (Entries.get?_insert "query" query _)

lemma terms_holds (values : List Json) :
    Holds "terms" name (.array values) (keep Allowed.terms options) (terms name values options) :=
  holds_withMember fun _ => rfl

lemma distanceSort_holds (point : Coordinates) (order unit : String) :
    Holds distanceSortMember name point.toJson
      (("order", .string order) ::
        (keep Allowed.sortByDistance options ++ [("unit", .string unit)]))
      (distanceSort name point order unit options) := by
  refine holds_withMember fun key => ?_
  rw [withMember, Entries.get?_insert, Entries.get?, Entries.get?]
  split
  · rfl
  · exact get?_withDefault "unit" (.string unit) _ key

end Fragment

/-- Where the arguments of a clause or a sort key that names a member of its fragment are found. The
members are those of the fragment, so an argument that has the name is not among them. -/
structure Context.KeepsArguments (x : Context) : Prop where
  within : ∀ (c : Clause) scope column point distance,
    c.form = .condition (.within column point distance) →
    ∃ fragment, x.result (c.assertion scope) = .ok ⟨fragment, false⟩ ∧
      Fragment.Holds "geo_distance" (scope.column column) point.toJson
        (("distance", .string distance) :: Fragment.keep Fragment.Allowed.distance c.options)
        fragment
  inBox : ∀ (c : Clause) scope column topLeft bottomRight,
    c.form = .condition (.inBox column topLeft bottomRight) →
    ∃ fragment, x.result (c.assertion scope) = .ok ⟨fragment, false⟩ ∧
      Fragment.Holds "geo_bounding_box" (scope.column column)
        (.record [("top_left", topLeft.toJson), ("bottom_right", bottomRight.toJson)])
        (Fragment.keep Fragment.Allowed.box c.options) fragment
  functionScore : ∀ (c : Clause) scope function params clauses ls,
    c.form = .functionScore function params clauses →
    x.result (Clause.literals none clauses) = .ok ls →
    ∃ fragment, x.result (c.assertion scope) = .ok ⟨fragment, false⟩ ∧
      Fragment.Holds "function_score" function params
        (("query", (Query.ofLiterals ls).toJson) ::
          Fragment.keep Fragment.Allowed.functionScore c.options) fragment
  oneOf : ∀ (c : Clause) scope column values field,
    c.form = .condition (.oneOf column values) →
    x.result (Compile.lookUp (scope.column column)) = .ok field →
    ∃ fragment, x.result (c.assertion scope) = .ok ⟨fragment, false⟩ ∧
      Fragment.Holds "terms" field (.array values)
        (Fragment.keep Fragment.Allowed.terms c.options) fragment
  sort : ∀ (k : SortKey) point, k.subject = .distance point →
    ∃ entry, x.result k.compile = .ok entry ∧
      Fragment.Holds Fragment.distanceSortMember k.column point.toJson
        (("order", .string k.direction.name) ::
          (Fragment.keep Fragment.Allowed.sortByDistance k.options ++
            [("unit", .string x.settings.distanceUnit)])) entry

theorem Context.keepsArguments (x : Context) : x.KeepsArguments := by
  refine ⟨?_, ?_, ?_, ?_, ?_⟩
  · rintro ⟨form, combinator, negate, options⟩ scope column point distance rfl
    exact ⟨_, rfl, Fragment.within_holds (scope.column column) options point distance⟩
  · rintro ⟨form, combinator, negate, options⟩ scope column topLeft bottomRight rfl
    exact ⟨_, rfl, Fragment.inBox_holds (scope.column column) options topLeft bottomRight⟩
  · rintro ⟨form, combinator, negate, options⟩ scope function params clauses ls rfl hls
    refine ⟨_, ?_, Fragment.functionScore_holds function options _ params⟩
    rw [Clause.assertion, Clause.formAssertion, x.result_bind, hls]
    rfl
  · rintro ⟨form, combinator, negate, options⟩ scope column values field rfl hfield
    refine ⟨_, ?_, Fragment.terms_holds field options values⟩
    rw [Clause.assertion, Clause.formAssertion, Condition.mapColumns, Condition.compile,
      x.result_bind, hfield]
    rfl
  · rintro ⟨column, direction, subject, options⟩ point rfl
    exact ⟨_, rfl, Fragment.distanceSort_holds column options point direction.name _⟩

namespace Context

def origin : Coordinates := ⟨.zero, .zero⟩

def boosted : Options := [("boost", .int 2)]

def unchecked : Context where
  source.index := "places"
  source.provider := .ofTable "gone" .empty
  source.trusting := true

/-- Called as a member of its fragment, a column or a function takes the place of that member. -/
theorem unchecked_loses_arguments :
    (∃ fragment, unchecked.result (Clause.assertion none
        (.ofCondition (.within "distance" origin "12km"))) = .ok ⟨fragment, false⟩ ∧
      fragment.under "geo_distance" "distance" ≠ some (.string "12km")) ∧
    (∃ fragment, unchecked.result (Clause.assertion none
        { form := .condition (.inBox "boost" origin origin), options := boosted }) =
          .ok ⟨fragment, false⟩ ∧
      fragment.under "geo_bounding_box" "boost" ≠ some (.int 2)) ∧
    (∃ fragment, unchecked.result (Clause.assertion none
        { form := .functionScore "query" (.object []) [] }) = .ok ⟨fragment, false⟩ ∧
      fragment.under "function_score" "query" ≠ some Fragment.matchAll) ∧
    (∃ fragment, unchecked.result (Clause.assertion none
        { form := .condition (.oneOf "boost" [.int 1]), options := boosted }) =
          .ok ⟨fragment, false⟩ ∧
      fragment.under "terms" "boost" ≠ some (.int 2)) ∧
    ∃ entry, unchecked.result
        (SortKey.compile { column := "order", subject := .distance origin }) = .ok entry ∧
      entry.under Fragment.distanceSortMember "order" ≠ some (.string "asc") := by
  refine ⟨⟨_, rfl, ?_⟩, ⟨_, rfl, ?_⟩, ⟨_, rfl, ?_⟩, ⟨_, rfl, ?_⟩, ⟨_, rfl, ?_⟩⟩
  · intro h
    cases h
  · intro h
    cases h
  · intro h
    cases h
  · intro h
    cases h
  · intro h
    cases h

end Context

end SearchCompiler
