import SearchCompiler.Proofs.Aggregation.Catalog
import SearchCompiler.Proofs.Dict
import SearchCompiler.Proofs.Text.Bytes

/-! What a catalog knows after types were registered any number of times: of every type the last
registration counts. A table of methods and one of metrics beside it show the same. -/

namespace SearchCompiler.Catalog

open Text (bytes)

structure Registration where
  type : String
  method : Method
  metric : Bool

def Registration.entry (r : Registration) : String × Entry := (r.type, ⟨r.method, r.metric⟩)

def register (c : Catalog) (r : Registration) : Catalog :=
  if r.metric then c.addMetric r.type r.method else c.addBucket r.type r.method

def registerAll (c : Catalog) (rs : List Registration) : Catalog := rs.foldl register c

def standardRegistrations : List Registration :=
  standardMetrics.map (fun e => ⟨e.1, e.2, true⟩) ++ standardBuckets.map fun e => ⟨e.1, e.2, false⟩

def Latest (rs : List Registration) (r : Registration) : Prop :=
  ∃ front back, rs = front ++ r :: back ∧ ∀ later ∈ back, later.type ≠ r.type

structure Tables where
  methods : Dict Method := .empty
  metrics : Dict Unit := .empty

namespace Tables

def register (t : Tables) (r : Registration) : Tables where
  methods := t.methods.insert r.type r.method
  metrics := if r.metric then t.metrics.insert r.type () else t.metrics.erase r.type

def registerAll (t : Tables) (rs : List Registration) : Tables := rs.foldl register t

structure Shows (t : Tables) (c : Catalog) : Prop where
  contains : ∀ type, t.methods.contains type = c.contains type
  method? : ∀ type, t.methods.get? type = c.method? type
  isMetric : ∀ type, t.metrics.contains type = c.isMetric type
  types : t.methods.keys = c.types

end Tables

section Steps

variable {c : Catalog} {t : Tables}

lemma register_eq (c : Catalog) (r : Registration) :
    c.register r = ⟨c.entries.insert r.type ⟨r.method, r.metric⟩⟩ := by
  obtain ⟨type, method, metric⟩ := r
  cases metric <;> rfl

lemma method?_register (c : Catalog) (r : Registration) (type : String) :
    (c.register r).method? type = if type = r.type then some r.method else c.method? type := by
  rw [register_eq]
  exact method?_insert c (r.type, r.method) r.metric type

lemma isMetric_register (c : Catalog) (r : Registration) (type : String) :
    (c.register r).isMetric type = if type = r.type then r.metric else c.isMetric type := by
  rw [register_eq, isMetric, Dict.get?_insert]
  by_cases htype : type = r.type
  · simp only [if_pos htype]
  · simp only [if_neg htype]
    rfl

lemma Tables.contains_metrics_register (t : Tables) (r : Registration) (type : String) :
    (t.register r).metrics.contains type =
      if type = r.type then r.metric else t.metrics.contains type := by
  rw [register]
  by_cases htype : type = r.type
  · subst htype
    cases r.metric with
    | true => simp [Dict.contains, Dict.get?_insert_self]
    | false => simp [Dict.contains, Dict.get?_erase_self]
  · rw [if_neg htype]
    cases r.metric with
    | true => exact congrArg Option.isSome (Dict.get?_insert_of_ne _ _ htype)
    | false => exact congrArg Option.isSome (Dict.get?_erase_of_ne _ htype)

lemma Tables.Shows.register (h : t.Shows c) (r : Registration) :
    (t.register r).Shows (c.register r) := by
  have hmethod (type : String) : (t.register r).methods.get? type = (c.register r).method? type := by
    rw [method?_register, ← h.method?]
    exact Dict.get?_insert t.methods r.type r.method type
  constructor
  · intro type
    rw [contains_eq_isSome_method?, ← hmethod]
    rfl
  · exact hmethod
  · intro type
    rw [contains_metrics_register, isMetric_register, h.isMetric]
  · rw [register_eq]
    exact Entries.keys_insert_congr h.types r.type r.method ⟨r.method, r.metric⟩

lemma Tables.Shows.registerAll (h : t.Shows c) (rs : List Registration) :
    (t.registerAll rs).Shows (c.registerAll rs) := by
  induction rs generalizing t c with
  | nil => exact h
  | cons r rs ih => exact ih (h.register r)

end Steps

section Runs

variable {rs : List Registration} {type : String}

lemma registerAll_append (c : Catalog) (rs rs' : List Registration) :
    c.registerAll (rs ++ rs') = (c.registerAll rs).registerAll rs' := List.foldl_append

lemma standard_eq_registerAll : standard = empty.registerAll standardRegistrations := by
  rw [registerAll, standardRegistrations, List.foldl_append, List.foldl_map, List.foldl_map]
  rfl

lemma entries_registerAll (c : Catalog) (rs : List Registration) :
    (c.registerAll rs).entries.entries =
      Entries.insertAll (rs.map Registration.entry) c.entries.entries := by
  induction rs generalizing c with
  | nil => rfl
  | cons r rs ih =>
    have hstep : c.registerAll (r :: rs) = (c.register r).registerAll rs := rfl
    rw [hstep, ih, register_eq]
    rfl

lemma get?_registerAll_empty (rs : List Registration) (type : String) :
    (empty.registerAll rs).entries.get? type =
      Entries.get? type (rs.map Registration.entry).reverse := by
  rw [Dict.get?, entries_registerAll, Entries.get?_insertAll]
  exact Option.or_none

lemma get?_registerAll_eq_some {e : Entry} :
    (empty.registerAll rs).entries.get? type = some e ↔
      ∃ r, Latest rs r ∧ r.entry = (type, e) := by
  rw [get?_registerAll_empty, Entries.get?_reverse_eq_some_iff]
  constructor
  · rintro ⟨front, back, hrs, hback⟩
    obtain ⟨rs₁, rs₂, rfl, rfl, h⟩ := List.map_eq_append_iff.mp hrs
    obtain ⟨r, rs₃, rfl, hr, rfl⟩ := List.map_eq_cons_iff.mp h
    refine ⟨r, ⟨rs₁, rs₃, rfl, fun later hlater htype => hback ?_⟩, hr⟩
    have hentry : r.type = type := congrArg Prod.fst hr
    rw [← hentry, ← htype]
    exact List.mem_map_of_mem (List.mem_map_of_mem hlater)
  · rintro ⟨r, ⟨front, back, rfl, hback⟩, hr⟩
    refine ⟨front.map Registration.entry, back.map Registration.entry, by simp [hr], ?_⟩
    have hentry : r.type = type := congrArg Prod.fst hr
    rw [List.map_map]
    intro hmem
    obtain ⟨later, hlater, htype⟩ := List.mem_map.mp hmem
    exact hback later hlater (htype.trans hentry.symm)

lemma contains_registerAll :
    (empty.registerAll rs).contains type = true ↔ ∃ r ∈ rs, r.type = type := by
  rw [contains, Dict.contains, get?_registerAll_empty]
  refine Entries.hasKey_iff.trans ?_
  simp [Registration.entry]

lemma method?_registerAll {method : Method} :
    (empty.registerAll rs).method? type = some method ↔
      ∃ r, Latest rs r ∧ r.type = type ∧ r.method = method := by
  simp only [method?, Option.map_eq_some_iff, get?_registerAll_eq_some]
  constructor
  · rintro ⟨e, ⟨r, hr, hentry⟩, rfl⟩
    obtain ⟨rfl, rfl⟩ := Prod.mk.inj hentry
    exact ⟨r, hr, rfl, rfl⟩
  · rintro ⟨r, hr, rfl, rfl⟩
    exact ⟨_, ⟨r, hr, rfl⟩, rfl⟩

lemma isMetric_iff {c : Catalog} :
    c.isMetric type = true ↔ ∃ e, c.entries.get? type = some e ∧ e.metric = true := by
  rw [isMetric]
  cases c.entries.get? type <;> simp

lemma isMetric_registerAll :
    (empty.registerAll rs).isMetric type = true ↔
      ∃ r, Latest rs r ∧ r.type = type ∧ r.metric = true := by
  simp only [isMetric_iff, get?_registerAll_eq_some]
  constructor
  · rintro ⟨e, ⟨r, hr, hentry⟩, hmetric⟩
    obtain ⟨rfl, rfl⟩ := Prod.mk.inj hentry
    exact ⟨r, hr, rfl, hmetric⟩
  · rintro ⟨r, hr, rfl, hmetric⟩
    exact ⟨_, ⟨r, hr, rfl⟩, hmetric⟩

lemma mem_types_iff {c : Catalog} : type ∈ c.types ↔ c.contains type = true :=
  Entries.hasKey_iff.symm

end Runs

structure Records (c : Catalog) (rs : List Registration) : Prop where
  contains : ∀ type, c.contains type = true ↔ ∃ r ∈ rs, r.type = type
  method? : ∀ type method, c.method? type = some method ↔
    ∃ r, Latest rs r ∧ r.type = type ∧ r.method = method
  isMetric : ∀ type, c.isMetric type = true ↔ ∃ r, Latest rs r ∧ r.type = type ∧ r.metric = true
  metric_has_method : ∀ type, c.isMetric type = true → ∃ method, c.method? type = some method
  ascending : c.types.Pairwise fun a b => bytes a < bytes b
  mem_types : ∀ type, type ∈ c.types ↔ ∃ r ∈ rs, r.type = type
  apart : (Tables.registerAll {} rs).Shows c

lemma records_empty (rs : List Registration) : (empty.registerAll rs).Records rs := by
  constructor
  · intro type
    exact contains_registerAll
  · intro type method
    exact method?_registerAll
  · intro type
    exact isMetric_registerAll
  · intro type h
    obtain ⟨e, he, -⟩ := isMetric_iff.mp h
    exact ⟨e.method, congrArg (Option.map Entry.method) he⟩
  · rw [types, Dict.keys, List.pairwise_map]
    exact (empty.registerAll rs).entries.ascending.imp fun h => Text.bytes_lt_bytes.mpr h
  · intro type
    exact mem_types_iff.trans contains_registerAll
  · have hstart : Tables.Shows {} empty := ⟨fun _ => rfl, fun _ => rfl, fun _ => rfl, rfl⟩
    exact hstart.registerAll rs

theorem records (rs : List Registration) :
    (empty.registerAll rs).Records rs ∧
      (standard.registerAll rs).Records (standardRegistrations ++ rs) := by
  refine ⟨records_empty rs, ?_⟩
  rw [standard_eq_registerAll, ← registerAll_append]
  exact records_empty (standardRegistrations ++ rs)

end SearchCompiler.Catalog
