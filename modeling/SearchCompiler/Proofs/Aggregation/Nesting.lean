import SearchCompiler.Proofs.Aggregation.Levels
import SearchCompiler.Record

/-! The nest of terms that a grouping compiles to, level by level: what each level groups by, how it
is ordered and sized, and what it has inside. -/

namespace SearchCompiler

namespace Grouping

def FirstKey (keys : List SortKey) (column : String) (k : SortKey) : Prop :=
  k.column = column ∧ ∃ front back, keys = front ++ k :: back ∧ ∀ k' ∈ front, k'.column ≠ column

inductive Ordered (keys : List SortKey) (field : String) : Option Json → Prop
  | byField {k} : FirstKey keys field k →
    Ordered keys field (some (.single "_key" (.string k.direction.name)))
  | byCount {k} : (∀ k' ∈ keys, k'.column ≠ field) → FirstKey keys "_count" k →
    Ordered keys field (some (.single "_count" (.string k.direction.name)))
  | absent : (∀ k' ∈ keys, k'.column ≠ field ∧ k'.column ≠ "_count") → Ordered keys field none

section Order

variable {keys : List SortKey} {field column : String} {k : SortKey}

lemma firstKey_of_find? (h : keys.find? (fun k => k.column == column) = some k) :
    FirstKey keys column k := by
  obtain ⟨hk, front, back, hsplit, hfront⟩ := List.find?_eq_some_iff_append.mp h
  exact ⟨by simpa using hk, front, back, hsplit, by simpa using hfront⟩

lemma column_ne_of_find? (h : keys.find? (fun k => k.column == column) = none) :
    ∀ k ∈ keys, k.column ≠ column := by
  simpa using h

lemma exists_ordered (keys : List SortKey) (field : String) : ∃ order, Ordered keys field order ∧
    orderOf keys field = (order.map fun value => ("order", value)).toList := by
  rw [orderOf]
  cases hfield : keys.find? fun k => k.column == field with
  | some k => exact ⟨_, .byField (firstKey_of_find? hfield), rfl⟩
  | none =>
    have hne := column_ne_of_find? hfield
    cases hcount : keys.find? fun k => k.column == countName with
    | some k => exact ⟨_, .byCount hne (firstKey_of_find? hcount), rfl⟩
    | none =>
      have hnone := column_ne_of_find? hcount
      exact ⟨none, .absent fun k hk => ⟨hne k hk, hnone k hk⟩, rfl⟩

end Order

inductive LevelOf (x : Context) (g : Grouping) (field : String) (inner : Options) : Json → Prop
  | mk {column order} : x.result (Compile.lookUp field) = .ok column → Ordered g.keys field order →
    LevelOf x g field inner (.ofMembers [
      ("aggs", if inner.isEmpty then none else some (.object inner)),
      ("terms", some (.ofMembers [
        ("field", some (.string column)),
        ("order", order),
        ("size", some (.ofUInt64 (g.size.getD x.settings.groupsSize)))]))])

lemma termsBuckets_ordered (column : String) (size : UInt64) (order : Option Json) :
    Fragment.termsBuckets column size (order.map fun value => ("order", value)).toList =
      .single "terms" (.ofMembers [
        ("field", some (.string column)), ("order", order), ("size", some (.ofUInt64 size))]) := by
  have hsize : Fragment.withDefault "size" (.ofUInt64 size) (Fragment.keep
        Fragment.Allowed.termsBuckets (order.map fun value => ("order", value)).toList) =
      Entries.insert "size" (.ofUInt64 size) (order.map fun value => ("order", value)).toList := by
    cases order <;> rfl
  -- members of different names may be inserted in any order, so the names are not compared
  have hfield : "field" ≠ "size" := by decide
  have horder : "field" ≠ "order" := by decide
  rw [Fragment.termsBuckets, hsize, Fragment.withMember, Entries.insert_comm hfield]
  cases order with
  | none =>
    simp only [Json.ofMembers, List.foldl_cons, List.foldl_nil]
    rfl
  | some value =>
    simp only [Json.ofMembers, List.foldl_cons, List.foldl_nil]
    rw [← Entries.insert_comm horder]
    rfl

lemma around_single (inner : Options) (terms : Json) :
    around inner (.single "terms" terms) = .ofMembers [
      ("aggs", if inner.isEmpty then none else some (.object inner)), ("terms", some terms)] := by
  have hterms : "aggs" ≠ "terms" := by decide
  cases inner with
  | nil => rfl
  | cons m inner =>
    simp only [Json.ofMembers, List.foldl_cons, List.foldl_nil, List.isEmpty_cons]
    exact congrArg Json.object (Entries.insert_comm hterms (.object (m :: inner)) terms [])

structure Nest (x : Context) (g : Grouping) (metrics : Options) (fields : List String)
    (nest : List (String × Json)) : Prop where
  named : nest.map Prod.fst = fields
  outer : ∀ i field level next, nest[i]? = some (field, level) → nest[i + 1]? = some next →
    LevelOf x g field [next] level
  innermost : ∀ field level, nest.getLast? = some (field, level) → LevelOf x g field metrics level

section Nest

variable {x : Context} {g : Grouping} {metrics : Options} {fields : List String}

lemma Nest.cons {nest : List (String × Json)} {field : String} {level : Json}
    (h : Nest x g metrics fields nest)
    (hlevel : LevelOf x g field (nest.head?.elim metrics fun next => [next]) level) :
    Nest x g metrics (field :: fields) ((field, level) :: nest) := by
  refine ⟨by rw [List.map_cons, h.named], fun i field' level' next hi hnext => ?_, ?_⟩
  · cases i with
    | zero =>
      obtain ⟨rfl, rfl⟩ := Prod.mk.inj (Option.some.inj hi)
      rw [List.head?_eq_getElem?, ← List.getElem?_cons_succ, hnext] at hlevel
      exact hlevel
    | succ i => exact h.outer i field' level' next hi hnext
  · intro field' level' hlast
    cases nest with
    | nil =>
      obtain ⟨rfl, rfl⟩ := Prod.mk.inj (Option.some.inj hlast)
      exact hlevel
    | cons next nest => exact h.innermost field' level' hlast

lemma exists_nest {members : Options}
    (h : x.result (levels (g.size.getD x.settings.groupsSize) g.keys metrics fields) =
      .ok members) :
    ∃ nest, Nest x g metrics fields nest ∧
      members = nest.head?.elim metrics fun level => [level] := by
  -- the levels are built from the innermost, so the rest of a nest is there before its head
  induction fields generalizing members with
  | nil =>
    obtain rfl := Except.ok.inj h
    refine ⟨[], ⟨rfl, ?_, ?_⟩, rfl⟩
    · rintro i field level next ⟨⟩
    · rintro field level ⟨⟩
  | cons field fields ih =>
    obtain ⟨inner, column, hinner, hcolumn, rfl⟩ := levels_cons_eq_ok.mp h
    obtain ⟨nest, hnest, rfl⟩ := ih hinner
    obtain ⟨order, hordered, horder⟩ := exists_ordered g.keys field
    refine ⟨_, hnest.cons ?_, rfl⟩
    rw [horder, termsBuckets_ordered, around_single]
    exact .mk hcolumn hordered

end Nest

structure Nests (x : Context) (catalog : Catalog) (g : Grouping) : Prop where
  compiles : (∃ members, x.result (g.compile catalog) = .ok members) ↔
    g.fields ≠ [] ∧ (∀ m ∈ g.metrics, catalog.isMetric m.type = true) ∧
    (∃ metrics, x.result (Aggregation.compileList catalog g.metrics) = .ok metrics) ∧
    ∀ field ∈ g.fields, ∃ column, x.result (Compile.lookUp field) = .ok column
  nested : ∀ members, x.result (g.compile catalog) = .ok members →
    ∃ metrics outermost rest,
      x.result (Aggregation.compileList catalog g.metrics) = .ok metrics ∧
      Nest x g metrics g.fields (outermost :: rest) ∧ members = [outermost]

theorem nests (x : Context) (catalog : Catalog) (g : Grouping) : Nests x catalog g := by
  constructor
  · simp only [compile_eq_ok, exists_and_left]
    refine and_congr_right fun hne => and_congr_right fun hmetrics => ?_
    constructor
    · rintro ⟨members, metrics, hcompiled, hlevels⟩
      exact ⟨⟨metrics, hcompiled⟩, exists_levels_eq_ok.mp ⟨members, hlevels⟩⟩
    · rintro ⟨⟨metrics, hcompiled⟩, hfields⟩
      obtain ⟨members, hlevels⟩ := exists_levels_eq_ok.mpr hfields
      exact ⟨members, metrics, hcompiled, hlevels⟩
  · intro members h
    obtain ⟨hne, -, metrics, hcompiled, hlevels⟩ := compile_eq_ok.mp h
    obtain ⟨nest, hnest, rfl⟩ := exists_nest hlevels
    cases nest with
    | nil => exact absurd hnest.named.symm hne
    | cons outermost rest => exact ⟨metrics, outermost, rest, hcompiled, hnest, rfl⟩

end Grouping

end SearchCompiler
