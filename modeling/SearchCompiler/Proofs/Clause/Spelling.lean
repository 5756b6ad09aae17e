import SearchCompiler.Proofs.Clause.Scoping

/-! Names in a nested scope. A column can be named below the path of its scope or absolutely, and
so can the path of a scope inside it and the columns that its inner hits are sorted by: nothing that
is compiled shows which. -/

namespace SearchCompiler

open Text (bytes)

section Names

variable {path column : String}

lemma qualified_of_covers (h : covers path column = true) : qualified path column = column :=
  if_pos h

lemma qualified_of_not_covers (h : ¬ covers path column = true) :
    qualified path column = path ++ "." ++ column :=
  if_neg h

example : qualified "comments" "comments2.author" = "comments.comments2.author" := by decide

lemma qualified_eq_self_iff : qualified path column = column ↔ covers path column = true := by
  refine ⟨fun h => ?_, qualified_of_covers⟩
  by_contra hc
  rw [qualified_of_not_covers hc] at h
  have hlength := congrArg String.length h
  simp only [String.length_append] at hlength
  have hdot : ".".length = 1 := rfl
  omega

lemma qualified_qualified (path column : String) :
    qualified path (qualified path column) = qualified path column :=
  qualified_of_covers (covers_qualified path column)

lemma covers_iff_bytes_or : covers path column = true ↔ bytes column = bytes path ∨
    bytes path <+: bytes column ∧ (bytes column)[(bytes path).length]? = some 46 := by
  constructor
  · intro h
    have hstarts := startsWith_of_covers h
    have hlead : bytes path <+: bytes column := Text.startsWith_iff_bytes.mp hstarts
    rcases (covers_iff_bytes hstarts).mp h with hlength | hdot
    · exact .inl (hlead.eq_of_length hlength.symm).symm
    · exact .inr ⟨hlead, hdot⟩
  · rintro (heq | ⟨hlead, hdot⟩)
    · exact covers_iff.mpr (.inl (Text.bytes_inj.mp heq))
    · exact (covers_iff_bytes (Text.startsWith_iff_bytes.mpr hlead)).mpr (.inr hdot)

lemma Scope.column_column (scope : Scope) (column : String) :
    scope.column (scope.column column) = scope.column column := by
  cases scope with
  | none => rfl
  | some path => exact qualified_qualified path column

end Names

lemma Condition.mapColumns_mapColumns {f : String → String} (hf : ∀ column, f (f column) = f column)
    (c : Condition) : (c.mapColumns f).mapColumns f = c.mapColumns f := by
  cases c <;> simp [mapColumns, hf]

def SortKey.inScope (k : SortKey) (path : String) : SortKey :=
  { k with column := qualified path k.column }

lemma SortKey.inScope_inScope (k : SortKey) (path : String) :
    (k.inScope path).inScope path = k.inScope path := by
  rw [inScope, inScope, qualified_qualified]

def NestedForm.inScope (path : String) : NestedForm → NestedForm
  | .inner keys offset limit => .inner (keys.map fun k => k.inScope path) offset limit
  | form => form

lemma NestedForm.compile_inScope (form : NestedForm) (path : String) (inner : Query)
    (options : Options) :
    (form.inScope path).compile path inner options = form.compile path inner options := by
  cases form with
  | plain => rfl
  | required => rfl
  | inner keys offset limit =>
    have hkeys : ((keys.map fun k => k.inScope path).map fun k => k.inScope path) =
        keys.map fun k => k.inScope path := by
      rw [List.map_map]
      exact List.map_congr_left fun k _ => k.inScope_inScope path
    exact congrArg (fun ks => innerHitsOf ks offset limit >>= fun hits =>
      pure (Fragment.nested path inner.toJson (some hits) options)) hkeys

namespace Clause

lemma inScope_inScope (c : Clause) (path : String) :
    (c.inScope path).inScope path = c.inScope path := by
  obtain ⟨form, combinator, negate, options⟩ := c
  cases form with
  | condition c =>
    have hc := c.mapColumns_mapColumns (qualified_qualified path)
    simp only [inScope, ClauseForm.mapColumns, hc]
  | nested form inner clauses =>
    simp only [inScope, ClauseForm.mapColumns, qualified_qualified]
  | functionScore function params clauses => rfl
  | related relative type query filter => rfl

lemma literals_map_inScope (path : String) (cs : List Clause) :
    literals (some path) (cs.map fun c => c.inScope path) = literals (some path) cs := by
  have hagain : ((cs.map fun c => c.inScope path).map fun c => c.inScope path) =
      cs.map fun c => c.inScope path := by
    rw [List.map_map]
    exact List.map_congr_left fun c _ => c.inScope_inScope path
  rw [literals_some, literals_some, hagain]

lemma overloaded_inScope (c : Clause) (path : String) :
    overloaded (c.inScope path) = overloaded c := by
  obtain ⟨form, combinator, negate, options⟩ := c
  cases form <;> rfl

lemma firstOverloaded_map_inScope (path : String) (cs : List Clause) :
    firstOverloaded (cs.map fun c => c.inScope path) = firstOverloaded cs := by
  induction cs with
  | nil => rfl
  | cons c cs ih => rw [List.map_cons, firstOverloaded, firstOverloaded, overloaded_inScope, ih]

mutual

lemma absolute_absolute (scope : Scope) : (c : Clause) →
    absolute scope (absolute scope c) = absolute scope c
  | ⟨form, _, _, _⟩ => by
    rw [absolute, absolute, formAbsolute_formAbsolute]

lemma formAbsolute_formAbsolute (scope : Scope) : (form : ClauseForm Clause) →
    formAbsolute scope (formAbsolute scope form) = formAbsolute scope form
  | .condition c => congrArg ClauseForm.condition (c.mapColumns_mapColumns scope.column_column)
  | .nested form path clauses => by
    rw [formAbsolute, formAbsolute, scope.column_column, listAbsolute_listAbsolute]
  | .functionScore function params clauses => by
    rw [formAbsolute, formAbsolute, listAbsolute_listAbsolute]
  | .related relative type query filter => by
    rw [formAbsolute, formAbsolute, listAbsolute_listAbsolute, listAbsolute_listAbsolute]

lemma listAbsolute_listAbsolute (scope : Scope) : (cs : List Clause) →
    listAbsolute scope (listAbsolute scope cs) = listAbsolute scope cs
  | [] => rfl
  | c :: cs => by
    rw [listAbsolute, listAbsolute, absolute_absolute, listAbsolute_listAbsolute]

end

lemma literals_listAbsolute (scope : Scope) (cs : List Clause) :
    literals scope (listAbsolute scope cs) = literals scope cs := by
  rw [← literalsAsWritten_listAbsolute, listAbsolute_listAbsolute, literalsAsWritten_listAbsolute]

lemma formAssertion_map_inScope (scope : Scope) (form : NestedForm) (path : String)
    (clauses : List Clause) (options : Options) :
    formAssertion scope options
        (.nested form path (clauses.map fun c => c.inScope (scope.column path))) =
      formAssertion scope options (.nested form path clauses) := by
  rw [formAssertion, formAssertion, literals_map_inScope]

lemma formAssertion_inScope (form : NestedForm) (path : String) (clauses : List Clause)
    (options : Options) :
    formAssertion none options (.nested (form.inScope path) path clauses) =
      formAssertion none options (.nested form path clauses) := by
  simp only [formAssertion, Scope.column, NestedForm.compile_inScope]

structure Alike (c d : Clause) : Prop where
  alone : assertion none c = assertion none d
  listed : ∀ front back, compileList (front ++ c :: back) = compileList (front ++ d :: back)

section Alike

variable {form form' : ClauseForm Clause} {combinator : Combinator} {negate : Bool}
  {options : Options}

lemma literals_congr_form (h : formAssertion none options form = formAssertion none options form')
    (front back : List Clause) :
    literals none (front ++ ⟨form, combinator, negate, options⟩ :: back) =
      literals none (front ++ ⟨form', combinator, negate, options⟩ :: back) := by
  induction front with
  | nil => rw [List.nil_append, List.nil_append, literals, literals, assertion, assertion, h]
  | cons c cs ih => rw [List.cons_append, List.cons_append, literals, literals, ih]

lemma firstOverloaded_congr_form (h : overloadedIn form = overloadedIn form')
    (front back : List Clause) :
    firstOverloaded (front ++ ⟨form, combinator, negate, options⟩ :: back) =
      firstOverloaded (front ++ ⟨form', combinator, negate, options⟩ :: back) := by
  induction front with
  | nil =>
    rw [List.nil_append, List.nil_append, firstOverloaded, firstOverloaded, overloaded,
      overloaded, h]
  | cons c cs ih => rw [List.cons_append, List.cons_append, firstOverloaded, firstOverloaded, ih]

lemma alike_of_form (h : formAssertion none options form = formAssertion none options form')
    (ho : overloadedIn form = overloadedIn form') :
    Alike ⟨form, combinator, negate, options⟩ ⟨form', combinator, negate, options⟩ := by
  refine ⟨?_, fun front back => ?_⟩
  · rw [assertion, assertion, h]
  · rw [compileList, compileList, firstOverloaded_congr_form ho, literals_congr_form h]

end Alike

/-- A name is taken below a path unless it is there already, and so only once. Of the names in a
nested scope it does not matter which are absolute. -/
structure AnySpelling (path : String) (cs : List Clause) : Prop where
  unchanged : ∀ column, column = path ∨ (∃ rest, column = path ++ "." ++ rest) →
    qualified path column = column
  extended : ∀ column, ¬ (column = path ∨ ∃ rest, column = path ++ "." ++ rest) →
    qualified path column = path ++ "." ++ column
  once : ∀ column, qualified path (qualified path column) = qualified path column
  bytewise : ∀ column, qualified path column = column ↔ bytes column = bytes path ∨
    bytes path <+: bytes column ∧ (bytes column)[(bytes path).length]? = some 46
  rightInside : ∀ form combinator negate options, Alike
    ⟨.nested form path (cs.map fun c => c.inScope path), combinator, negate, options⟩
    ⟨.nested form path cs, combinator, negate, options⟩
  withKeys : ∀ keys offset limit combinator negate options, Alike
    ⟨.nested (.inner (keys.map fun k => { k with column := qualified path k.column }) offset limit)
      path (cs.map fun c => c.inScope path), combinator, negate, options⟩
    ⟨.nested (.inner keys offset limit) path cs, combinator, negate, options⟩
  throughout : ∀ form combinator negate options, Alike
    ⟨.nested form path (listAbsolute (some path) cs), combinator, negate, options⟩
    ⟨.nested form path cs, combinator, negate, options⟩
  enclosed : ∀ (scope : Scope) form combinator negate options,
    assertion scope ⟨.nested form path (cs.map fun c => c.inScope (scope.column path)),
        combinator, negate, options⟩ =
      assertion scope ⟨.nested form path cs, combinator, negate, options⟩

theorem anySpelling (path : String) (cs : List Clause) : AnySpelling path cs := by
  have hoverload : firstOverloaded (cs.map fun c => c.inScope path) =
      firstOverloaded cs := firstOverloaded_map_inScope path cs
  constructor
  · intro column h
    exact qualified_of_covers (covers_iff.mpr h)
  · intro column h
    exact qualified_of_not_covers (mt covers_iff.mp h)
  · exact qualified_qualified path
  · intro column
    rw [qualified_eq_self_iff, covers_iff_bytes_or]
  · intro form combinator negate options
    exact alike_of_form (formAssertion_map_inScope none form path cs options) hoverload
  · intro keys offset limit combinator negate options
    have hform := formAssertion_map_inScope none (.inner keys offset limit) path cs options
    exact alike_of_form ((formAssertion_inScope _ path _ options).trans hform) hoverload
  · intro form combinator negate options
    refine alike_of_form ?_ (firstOverloaded_listAbsolute _ cs)
    rw [formAssertion, formAssertion, Scope.column, literals_listAbsolute]
  · intro scope form combinator negate options
    exact formAssertion_map_inScope scope form path cs options

end Clause

end SearchCompiler
