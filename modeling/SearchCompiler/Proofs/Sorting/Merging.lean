import SearchCompiler.Proofs.Lookup.Resolution
import SearchCompiler.Sorting.Section

/-! Patches written into sort entries. What is written under one field changes neither whose entry
an entry is nor what stands under the others, so every patch reaches the entry that it would reach
on its own, and patches that are written again change nothing. -/

namespace SearchCompiler

open Fragment (distanceSortMember)

namespace SortPatch

abbrev Writes := List (String × Options)

def overrideAll (ws : Writes) (entry : Json) : Json :=
  ws.foldl (fun entry w => override w.1 w.2 entry) entry

def mergeAll (ws : Writes) (entries : List Json) : List Json :=
  ws.foldl (fun entries w => mergeInto w.1 w.2 entries) entries

def settingsOf (field : String) (ws : Writes) : Options :=
  (ws.filter fun w => w.1 = field).flatMap Prod.snd

variable {field other : String} {settings settings' present : Options} {entry : Json} {ws : Writes}

lemma override_of_some (h : (entry.get? field).bind Json.object? = some present) :
    override field settings entry =
      .object
        (Entries.insert field (.object (Entries.insertAll settings present)) entry.members) := by
  rw [override, h]

lemma override_of_none (h : (entry.get? field).bind Json.object? = none) :
    override field settings entry = entry := by
  rw [override, h]

lemma get?_override_of_ne (h : other ≠ field) :
    (override field settings entry).get? other = entry.get? other := by
  cases hpresent : (entry.get? field).bind Json.object? with
  | none => rw [override_of_none hpresent]
  | some present =>
    rw [override_of_some hpresent]
    exact Entries.get?_insert_of_ne _ _ h

lemma get?_override_self (h : (entry.get? field).bind Json.object? = some present) :
    (override field settings entry).get? field =
      some (.object (Entries.insertAll settings present)) := by
  rw [override_of_some h]
  exact Entries.get?_insert_self _ _ _

lemma isEntryOf_override (h : field ≠ distanceSortMember) :
    isEntryOf other (override field settings entry) = isEntryOf other entry := by
  rw [isEntryOf, isEntryOf, get?_override_of_ne (Ne.symm h)]
  by_cases hother : other = field
  · subst hother
    cases hpresent : (entry.get? other).bind Json.object? with
    | none => rw [override_of_none hpresent, hpresent]
    | some present =>
      rw [get?_override_self hpresent]
      rfl
  · rw [get?_override_of_ne hother]

lemma override_override : override field settings' (override field settings entry) =
    override field (settings ++ settings') entry := by
  cases hpresent : (entry.get? field).bind Json.object? with
  | none => simp only [override_of_none hpresent]
  | some present =>
    have hself : ((override field settings entry).get? field).bind Json.object? =
        some (Entries.insertAll settings present) := by
      rw [get?_override_self hpresent]
      rfl
    rw [override_of_some hself, override_of_some hpresent, override_of_some hpresent,
      Entries.insertAll_append]
    exact congrArg Json.object (Entries.insert_insert_self _ _ _ _)

lemma override_comm (h : field ≠ other) :
    override field settings (override other settings' entry) =
      override other settings' (override field settings entry) := by
  have hget : (override other settings' entry).get? field = entry.get? field :=
    get?_override_of_ne h
  have hget' : (override field settings entry).get? other = entry.get? other :=
    get?_override_of_ne h.symm
  cases hpresent : (entry.get? field).bind Json.object? with
  | none =>
    rw [override_of_none hpresent]
    exact override_of_none (by rw [hget, hpresent])
  | some present =>
    cases hpresent' : (entry.get? other).bind Json.object? with
    | none =>
      rw [override_of_none hpresent']
      exact (override_of_none (by rw [hget', hpresent'])).symm
    | some present' =>
      have hfield : ((override other settings' entry).get? field).bind Json.object? =
          some present := by rw [hget, hpresent]
      have hother : ((override field settings entry).get? other).bind Json.object? =
          some present' := by rw [hget', hpresent']
      rw [override_of_some hfield, override_of_some hother, override_of_some hpresent,
        override_of_some hpresent']
      exact congrArg Json.object (Entries.insert_comm h _ _ _)

lemma override_twice : override field settings (override field settings entry) =
    override field settings entry := by
  rw [override_override]
  cases hpresent : (entry.get? field).bind Json.object? with
  | none => rw [override_of_none hpresent, override_of_none hpresent]
  | some present =>
    rw [override_of_some hpresent, override_of_some hpresent, Entries.insertAll_append,
      Entries.insertAll_insertAll (List.Subset.refl _)]

lemma overrideAll_override : overrideAll ws (override field settings entry) =
    override field (settings ++ settingsOf field ws)
      (overrideAll (ws.filter fun w => w.1 ≠ field) entry) := by
  induction ws generalizing settings entry with
  | nil => simp [overrideAll, settingsOf]
  | cons w ws ih =>
    change overrideAll ws (override w.1 w.2 (override field settings entry)) = _
    by_cases hw : w.1 = field
    · subst hw
      rw [override_override, ih]
      simp [settingsOf]
    · rw [override_comm hw, ih]
      simp [settingsOf, hw, overrideAll]

lemma overrideAll_twice (ws : Writes) (entry : Json) :
    overrideAll ws (overrideAll ws entry) = overrideAll ws entry := by
  induction hn : ws.length using Nat.strong_induction_on generalizing ws entry with
  | h n ih =>
    cases ws with
    | nil => rfl
    | cons w ws =>
      -- what is written for `w.1` goes last, and is written twice there; the rest is shorter
      let rest := ws.filter fun v => v.1 ≠ w.1
      have hcons (entry : Json) : overrideAll (w :: ws) entry =
          override w.1 (w.2 ++ settingsOf w.1 ws) (overrideAll rest entry) := overrideAll_override
      have hnone : settingsOf w.1 rest = [] := by
        simp [settingsOf, rest, List.filter_filter]
      have hrest : rest.filter (fun v => v.1 ≠ w.1) = rest := by
        simp [rest, List.filter_filter]
      have hlt : rest.length < n := by
        have hle : rest.length ≤ ws.length := List.length_filter_le _ _
        rw [List.length_cons] at hn
        omega
      rw [hcons, hcons, overrideAll_override, hnone, hrest, ih _ hlt rest entry rfl,
        List.append_nil, override_twice]

lemma isEntryOf_single (h : field ≠ distanceSortMember) :
    isEntryOf other (.single field (.object present)) = decide (other = field) := by
  rw [isEntryOf, Json.get?_single, Json.get?_single, if_neg (Ne.symm h)]
  by_cases hother : other = field <;> simp [hother, Json.object?]

lemma override_single : override field settings (.single field (.object present)) =
    .single field (.object (Entries.insertAll settings present)) := by
  have hpresent : ((Json.single field (.object present)).get? field).bind Json.object? =
      some present := by
    rw [Json.get?_single, if_pos rfl]
    rfl
  rw [override_of_some hpresent, Json.single, Json.single, Json.members, Entries.insert,
    if_pos rfl]

def taken (entry : Json) (ws : Writes) : Writes := ws.filter fun w => isEntryOf w.1 entry

def passed (entry : Json) (ws : Writes) : Writes := ws.filter fun w => !isEntryOf w.1 entry

lemma taken_congr {entry entry' : Json}
    (h : ∀ other, isEntryOf other entry = isEntryOf other entry') :
    taken entry ws = taken entry' ws := by
  simp only [taken, h]

lemma passed_congr {entry entry' : Json}
    (h : ∀ other, isEntryOf other entry = isEntryOf other entry') :
    passed entry ws = passed entry' ws := by
  simp only [passed, h]

lemma isEntryOf_overrideAll (h : ∀ w ∈ ws, w.1 ≠ distanceSortMember) :
    isEntryOf other (overrideAll ws entry) = isEntryOf other entry := by
  induction ws generalizing entry with
  | nil => rfl
  | cons w ws ih =>
    obtain ⟨hw, hws⟩ := List.forall_mem_cons.mp h
    exact (ih hws).trans (isEntryOf_override hw)

/-- An entry stays the entry of the fields that it was one of, so what reaches it can be told before
anything is written. -/
lemma mergeAll_cons (h : ∀ w ∈ ws, w.1 ≠ distanceSortMember) (entry : Json) (rest : List Json) :
    mergeAll ws (entry :: rest) =
      overrideAll (taken entry ws) entry :: mergeAll (passed entry ws) rest := by
  induction ws generalizing entry rest with
  | nil => rfl
  | cons w ws ih =>
    obtain ⟨hw, hws⟩ := List.forall_mem_cons.mp h
    change mergeAll ws (mergeInto w.1 w.2 (entry :: rest)) = _
    rw [mergeInto]
    cases hentry : isEntryOf w.1 entry with
    | true =>
      have htaken : taken entry (w :: ws) = w :: taken entry ws := by simp [taken, hentry]
      have hpassed : passed entry (w :: ws) = passed entry ws := by simp [passed, hentry]
      have hstays (other : String) : isEntryOf other (override w.1 w.2 entry) =
          isEntryOf other entry := isEntryOf_override hw
      rw [if_pos rfl, ih hws, htaken, hpassed, taken_congr hstays, passed_congr hstays]
      rfl
    | false =>
      have htaken : taken entry (w :: ws) = taken entry ws := by simp [taken, hentry]
      have hpassed : passed entry (w :: ws) = w :: passed entry ws := by simp [passed, hentry]
      rw [if_neg Bool.false_ne_true, ih hws, htaken, hpassed]
      rfl

lemma mergeAll_nil {w : String × Options} (hw : w.1 ≠ distanceSortMember)
    (hsettings : Entries.Ascending w.2) (ws : Writes) :
    mergeAll (w :: ws) [] = mergeAll (w :: ws) [.single w.1 (.object [])] := by
  have hentry : isEntryOf w.1 (.single w.1 (.object [])) = true := by
    rw [isEntryOf_single hw, decide_eq_true rfl]
  have hall : Entries.insertAll w.2 [] = w.2 := Entries.insertAll_of_ascending hsettings
  change mergeAll ws [.single w.1 (.object w.2)] =
    mergeAll ws (mergeInto w.1 w.2 [.single w.1 (.object [])])
  rw [mergeInto, if_pos hentry, override_single, hall]

lemma length_passed_lt {w : String × Options} (hw : w.1 ≠ distanceSortMember) (ws : Writes) :
    (passed (.single w.1 (.object [])) (w :: ws)).length < (w :: ws).length := by
  have hentry : isEntryOf w.1 (.single w.1 (.object [])) = true := by
    rw [isEntryOf_single hw, decide_eq_true rfl]
  have hcons : passed (.single w.1 (.object [])) (w :: ws) =
      passed (.single w.1 (.object [])) ws := by simp [passed, hentry]
  rw [hcons]
  exact Nat.lt_succ_of_le (List.length_filter_le _ _)

lemma passed_subset {P : String × Options → Prop} (h : ∀ w ∈ ws, P w) (entry : Json) :
    ∀ w ∈ passed entry ws, P w :=
  fun w hw => h w (List.mem_filter.mp hw).1

lemma mergeAll_twice_cons (h : ∀ w ∈ ws, w.1 ≠ distanceSortMember) {rest : List Json}
    (hrest : mergeAll (passed entry ws) (mergeAll (passed entry ws) rest) =
      mergeAll (passed entry ws) rest) :
    mergeAll ws (mergeAll ws (entry :: rest)) = mergeAll ws (entry :: rest) := by
  have hstays (other : String) : isEntryOf other (overrideAll (taken entry ws) entry) =
      isEntryOf other entry :=
    isEntryOf_overrideAll fun w hw => h w (List.mem_filter.mp hw).1
  rw [mergeAll_cons h, mergeAll_cons h, taken_congr hstays, passed_congr hstays,
    overrideAll_twice, hrest]

lemma mergeAll_twice_nil (h : ∀ w ∈ ws, w.1 ≠ distanceSortMember ∧ Entries.Ascending w.2) :
    mergeAll ws (mergeAll ws []) = mergeAll ws [] := by
  induction hn : ws.length using Nat.strong_induction_on generalizing ws with
  | h n ih =>
    subst hn
    cases ws with
    | nil => rfl
    | cons w ws =>
      obtain ⟨⟨hw, hsettings⟩, -⟩ := List.forall_mem_cons.mp h
      rw [mergeAll_nil hw hsettings]
      exact mergeAll_twice_cons (fun v hv => (h v hv).1)
        (ih _ (length_passed_lt hw ws) (passed_subset h _) rfl)

lemma mergeAll_twice (h : ∀ w ∈ ws, w.1 ≠ distanceSortMember ∧ Entries.Ascending w.2)
    (entries : List Json) : mergeAll ws (mergeAll ws entries) = mergeAll ws entries := by
  induction entries generalizing ws with
  | nil => exact mergeAll_twice_nil h
  | cons entry rest ih =>
    exact mergeAll_twice_cons (fun w hw => (h w hw).1) (ih (passed_subset h entry))

end SortPatch

namespace Context

variable {x : Context} {ps : List SortPatch}

def fieldOf (x : Context) (column : String) : Option String :=
  (x.result (Compile.lookUp column)).toOption

def writes (x : Context) (ps : List SortPatch) : SortPatch.Writes :=
  ps.filterMap fun p => (x.fieldOf p.column).map fun field =>
    (field, Fragment.keep Fragment.Allowed.sortPatch p.settings)

structure Takes (x : Context) (p : SortPatch) : Prop where
  field : ∃ field, x.fieldOf p.column = some field ∧ field ≠ distanceSortMember
  settings : Entries.Ascending p.settings

lemma fieldOf_eq_some_iff {column field : String} :
    x.fieldOf column = some field ↔ x.result (Compile.lookUp column) = .ok field := by
  rw [fieldOf]
  cases x.result (Compile.lookUp column) <;> simp [Except.toOption]

lemma writes_takes (h : ∀ p ∈ ps, x.Takes p) :
    ∀ w ∈ x.writes ps, w.1 ≠ distanceSortMember ∧ Entries.Ascending w.2 := by
  intro w hw
  obtain ⟨p, hp, hw⟩ := List.mem_filterMap.mp hw
  obtain ⟨⟨field, hfield, hne⟩, hsettings⟩ := h p hp
  rw [hfield, Option.map_some] at hw
  obtain rfl := Option.some.inj hw
  exact ⟨hne, List.Pairwise.sublist List.filter_sublist hsettings⟩

lemma result_applyAll (h : ∀ p ∈ ps, x.Takes p) (entries : List Json) :
    x.result (SortPatch.applyAll entries ps) = .ok (SortPatch.mergeAll (x.writes ps) entries) := by
  induction ps generalizing entries with
  | nil => rfl
  | cons p ps ih =>
    obtain ⟨⟨⟨field, hfield, -⟩, -⟩, hps⟩ := List.forall_mem_cons.mp h
    have hwrites : x.writes (p :: ps) =
        (field, Fragment.keep Fragment.Allowed.sortPatch p.settings) :: x.writes ps := by
      simp [writes, hfield]
    rw [SortPatch.applyAll, result_bind, fieldOf_eq_some_iff.mp hfield, hwrites]
    exact ih hps _

lemma run_of_cached {α : Type} {t : FieldTable} (h : x.memory.cache.get? x.source.index = some t)
    (c : Compile α) : x.run c = (x.result c, x.memory) :=
  Prod.ext rfl (Lookup.run_of_cached h)

end Context

theorem SortPatch.applyAll_again (x : Context) {t : FieldTable}
    (hcached : x.memory.cache.get? x.source.index = some t) (entries : List Json)
    (ps : List SortPatch) (hps : ∀ p ∈ ps, x.Takes p) :
    ∃ merged, x.run (applyAll entries ps) = (.ok merged, x.memory) ∧
      x.run (applyAll merged ps) = (.ok merged, x.memory) := by
  refine ⟨mergeAll (x.writes ps) entries, ?_, ?_⟩
  · rw [Context.run_of_cached hcached, Context.result_applyAll hps]
  · rw [Context.run_of_cached hcached, Context.result_applyAll hps,
      mergeAll_twice (Context.writes_takes hps)]

def Context.staff : Context where
  source.index := "staff"
  source.provider := .ofTable "gone" .empty
  memory.cache := .ofList [("staff", .ofPairs [("age", "integer"), ("name", "text"),
    ("name.keyword", "keyword")])]

namespace SortPatch

def respelled : List SortPatch := [
  ⟨"name", [("missing", .string "_first"), ("order", .string "asc")]⟩,
  ⟨"name.keyword", [("boost", .int 2), ("missing", .string "_last")]⟩,
  .ofDirection "age" .descending]

lemma takes_respelled : ∀ p ∈ respelled, Context.staff.Takes p := by
  have hboost : ("boost" : String) < "missing" := by decide
  have hmissing : ("missing" : String) < "order" := by decide
  simp only [respelled, List.forall_mem_cons]
  refine ⟨⟨⟨"name.keyword", rfl, by decide⟩, ?_⟩, ⟨⟨"name.keyword", rfl, by decide⟩, ?_⟩,
    ⟨⟨"age", rfl, by decide⟩, ?_⟩, by simp⟩
  · exact List.pairwise_pair.mpr hmissing
  · exact List.pairwise_pair.mpr hboost
  · exact List.pairwise_singleton _ _

def assorted : List Json := [
  .string "_score",
  .object [(distanceSortMember, .object []), ("name.keyword", .object [])],
  .object [("name.keyword", .string "asc")],
  .object [("age", .object []), ("name.keyword", .object [("missing", .string "_first")])]]

theorem applyAll_again_respelled :
    (∃ t, Context.staff.memory.cache.get? Context.staff.source.index = some t) ∧
      (∀ p ∈ respelled, Context.staff.Takes p) ∧
      ∃ merged, Context.staff.run (applyAll assorted respelled) =
          (.ok merged, Context.staff.memory) ∧
        Context.staff.run (applyAll merged respelled) = (.ok merged, Context.staff.memory) :=
  ⟨⟨_, rfl⟩, takes_respelled, applyAll_again Context.staff rfl assorted respelled takes_respelled⟩

end SortPatch

end SearchCompiler
