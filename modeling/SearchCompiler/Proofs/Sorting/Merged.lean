import SearchCompiler.Proofs.Sorting.Merging

/-! What patches make of compiled sort keys. The entries stay in their order, and the first one of
each patched field has the settings of all its patches; a field without an entry gets a new one, in
the order in which the patches name such fields. -/

namespace SearchCompiler

open Fragment (distanceSortMember)

namespace SortPatch

def isKeyed (field : String) (entry : Json) : Bool :=
  (entry.get? distanceSortMember).isNone && (entry.get? field).isSome

def newEntry (ws : Writes) (field : String) : Json :=
  .single field (.object (Entries.insertAll (settingsOf field ws) []))

def missing (ws : Writes) (entries : List Json) : List String :=
  (ws.map Prod.fst).filter fun field => entries.all fun entry => !isKeyed field entry

structure Merged (ws : Writes) (compiled merged : List Json) : Prop where
  changed : ∀ field ∈ ws.map Prod.fst, ∀ i, compiled.findIdx? (isKeyed field) = some i →
    ∃ body, compiled[i]? = some (.single field (.object body)) ∧
      merged[i]? = some (.single field (.object (Entries.insertAll (settingsOf field ws) body)))
  unchanged : ∀ i < compiled.length,
    (∀ field ∈ ws.map Prod.fst, compiled.findIdx? (isKeyed field) ≠ some i) →
      merged[i]? = compiled[i]?
  added : merged.drop compiled.length = (missing ws compiled).eraseDups.map (newEntry ws)

inductive IsEntry : Json → Prop
  | field {field body} : field ≠ distanceSortMember → IsEntry (.single field (.object body))
  | distance {body} : IsEntry (.single distanceSortMember body)

variable {field other : String} {body : Options} {entry : Json} {ws : Writes}

lemma isKeyed_single (h : field ≠ distanceSortMember) (value : Json) :
    isKeyed other (.single field value) = decide (other = field) := by
  rw [isKeyed, Json.get?_single, Json.get?_single, if_neg (Ne.symm h)]
  by_cases hother : other = field <;> simp [hother]

lemma isKeyed_distance (value : Json) :
    isKeyed other (.single distanceSortMember value) = false := by
  rw [isKeyed, Json.get?_single, if_pos rfl]
  rfl

lemma IsEntry.isEntryOf_eq (h : IsEntry entry) (other : String) :
    isEntryOf other entry = isKeyed other entry := by
  cases h with
  | field hne => rw [isEntryOf_single hne, isKeyed_single hne]
  | distance =>
    rw [isKeyed_distance, isEntryOf, Json.get?_single, if_pos rfl]
    rfl

lemma IsEntry.eq_of_isKeyed (h : IsEntry entry) (hkeyed : isKeyed field entry = true) :
    field ≠ distanceSortMember ∧ ∃ body, entry = .single field (.object body) := by
  cases h with
  | @field other body hne =>
    rw [isKeyed_single hne, decide_eq_true_eq] at hkeyed
    exact ⟨hkeyed ▸ hne, body, by rw [hkeyed]⟩
  | distance =>
    rw [isKeyed_distance] at hkeyed
    cases hkeyed

lemma overrideAll_taken (h : field ≠ distanceSortMember) :
    overrideAll (taken (.single field (.object body)) ws) (.single field (.object body)) =
      .single field (.object (Entries.insertAll (settingsOf field ws) body)) := by
  have htaken (body : Options) : taken (.single field (.object body)) ws =
      ws.filter fun w => w.1 = field := by
    simp only [taken, isEntryOf_single h]
  rw [htaken]
  clear htaken
  induction ws generalizing body with
  | nil => rfl
  | cons w ws ih =>
    obtain ⟨name, settings⟩ := w
    by_cases hw : name = field
    · subst hw
      have hfilter : ((name, settings) :: ws).filter (fun w => w.1 = name) =
          (name, settings) :: ws.filter fun w => w.1 = name := by simp
      have hsettings : settingsOf name ((name, settings) :: ws) =
          settings ++ settingsOf name ws := by simp [settingsOf]
      rw [hfilter, hsettings, Entries.insertAll_append, ← ih, ← override_single]
      rfl
    · have hfilter : ((name, settings) :: ws).filter (fun w => w.1 = field) =
          ws.filter fun w => w.1 = field := by simp [hw]
      have hsettings : settingsOf field ((name, settings) :: ws) = settingsOf field ws := by
        simp [settingsOf, hw]
      rw [hfilter, hsettings, ih]

lemma settingsOf_passed (h : isEntryOf field entry = false) :
    settingsOf field (passed entry ws) = settingsOf field ws := by
  rw [settingsOf, settingsOf, passed, List.filter_filter]
  congr 1
  refine List.filter_congr fun w _ => ?_
  by_cases hw : w.1 = field <;> simp [hw, h]

lemma map_fst_passed (entry : Json) (ws : Writes) :
    (passed entry ws).map Prod.fst =
      (ws.map Prod.fst).filter fun field => !isEntryOf field entry := by
  rw [passed, List.filter_map]
  rfl

lemma map_newEntry_passed {fields : List String}
    (h : ∀ field ∈ fields, isEntryOf field entry = false) :
    fields.map (newEntry (passed entry ws)) = fields.map (newEntry ws) := by
  refine List.map_congr_left fun field hfield => ?_
  rw [newEntry, newEntry, settingsOf_passed (h field hfield)]

lemma mergeAll_nil_eq (h : ∀ w ∈ ws, w.1 ≠ distanceSortMember ∧ Entries.Ascending w.2) :
    mergeAll ws [] = (ws.map Prod.fst).eraseDups.map (newEntry ws) := by
  induction hn : ws.length using Nat.strong_induction_on generalizing ws with
  | h n ih =>
    subst hn
    cases ws with
    | nil => rfl
    | cons w ws =>
      obtain ⟨⟨hw, hsettings⟩, -⟩ := List.forall_mem_cons.mp h
      -- the new entry of `w.1` takes all that is written for it; the induction is on the rest
      let entry : Json := .single w.1 (.object [])
      have hothers : ((ws.map Prod.fst).filter fun field => !field == w.1) =
          (passed entry (w :: ws)).map Prod.fst := by
        rw [map_fst_passed]
        simp [entry, isEntryOf_single hw, beq_eq_decide]
      have hnew : ∀ field ∈ ((passed entry (w :: ws)).map Prod.fst).eraseDups,
          isEntryOf field entry = false := by
        intro field hfield
        rw [List.mem_eraseDups, map_fst_passed] at hfield
        simpa using (List.mem_filter.mp hfield).2
      rw [mergeAll_nil hw hsettings, mergeAll_cons fun v hv => (h v hv).1,
        ih _ (length_passed_lt hw ws) (passed_subset h _) rfl, overrideAll_taken hw,
        List.map_cons, List.eraseDups_cons, List.map_cons, hothers, map_newEntry_passed hnew]
      rfl

lemma missing_cons (h : IsEntry entry) (ws : Writes) (rest : List Json) :
    missing ws (entry :: rest) = missing (passed entry ws) rest := by
  rw [missing, missing, map_fst_passed, List.filter_filter]
  refine List.filter_congr fun field _ => ?_
  rw [List.all_cons, h.isEntryOf_eq, Bool.and_comm]

lemma drop_mergeAll {compiled : List Json} (hcompiled : ∀ entry ∈ compiled, IsEntry entry)
    (h : ∀ w ∈ ws, w.1 ≠ distanceSortMember ∧ Entries.Ascending w.2) :
    (mergeAll ws compiled).drop compiled.length =
      (missing ws compiled).eraseDups.map (newEntry ws) := by
  induction compiled generalizing ws with
  | nil =>
    have hmissing : missing ws [] = ws.map Prod.fst := List.filter_eq_self.mpr fun _ _ => rfl
    rw [hmissing, ← mergeAll_nil_eq h]
    rfl
  | cons entry rest ih =>
    obtain ⟨hentry, hrest⟩ := List.forall_mem_cons.mp hcompiled
    have hnew : ∀ field ∈ (missing (passed entry ws) rest).eraseDups,
        isEntryOf field entry = false := by
      intro field hfield
      rw [List.mem_eraseDups, missing, map_fst_passed] at hfield
      simpa using (List.mem_filter.mp (List.mem_filter.mp hfield).1).2
    rw [mergeAll_cons fun w hw => (h w hw).1, List.length_cons, List.drop_succ_cons,
      ih hrest (passed_subset h entry), missing_cons hentry, map_newEntry_passed hnew]

lemma getElem?_mergeAll_changed {compiled : List Json}
    (hcompiled : ∀ entry ∈ compiled, IsEntry entry) (h : ∀ w ∈ ws, w.1 ≠ distanceSortMember)
    {i : Nat} (hi : compiled.findIdx? (isKeyed field) = some i) :
    ∃ body, compiled[i]? = some (.single field (.object body)) ∧
      (mergeAll ws compiled)[i]? =
        some (.single field (.object (Entries.insertAll (settingsOf field ws) body))) := by
  induction compiled generalizing ws i with
  | nil => cases hi
  | cons entry rest ih =>
    obtain ⟨hentry, hrest⟩ := List.forall_mem_cons.mp hcompiled
    rw [mergeAll_cons h]
    rw [List.findIdx?_cons] at hi
    cases hkeyed : isKeyed field entry with
    | true =>
      rw [hkeyed, if_pos rfl] at hi
      obtain rfl := Option.some.inj hi
      obtain ⟨hne, body, rfl⟩ := hentry.eq_of_isKeyed hkeyed
      exact ⟨body, rfl, congrArg some (overrideAll_taken hne)⟩
    | false =>
      rw [hkeyed, if_neg Bool.false_ne_true] at hi
      obtain ⟨j, hj, rfl⟩ := Option.map_eq_some_iff.mp hi
      have hpasses : isEntryOf field entry = false := by rw [hentry.isEntryOf_eq, hkeyed]
      obtain ⟨body, hbody, hmerged⟩ := ih hrest (passed_subset h entry) hj
      rw [settingsOf_passed hpasses] at hmerged
      exact ⟨body, hbody, hmerged⟩

lemma getElem?_mergeAll_unchanged {compiled : List Json}
    (hcompiled : ∀ entry ∈ compiled, IsEntry entry) (h : ∀ w ∈ ws, w.1 ≠ distanceSortMember)
    {i : Nat} (hi : i < compiled.length)
    (hnone : ∀ field ∈ ws.map Prod.fst, compiled.findIdx? (isKeyed field) ≠ some i) :
    (mergeAll ws compiled)[i]? = compiled[i]? := by
  induction compiled generalizing ws i with
  | nil => cases hi
  | cons entry rest ih =>
    obtain ⟨hentry, hrest⟩ := List.forall_mem_cons.mp hcompiled
    rw [mergeAll_cons h]
    cases i with
    | zero =>
      have htaken : taken entry ws = [] := by
        refine List.filter_eq_nil_iff.mpr fun w hw htakes => ?_
        rw [hentry.isEntryOf_eq] at htakes
        refine hnone w.1 (List.mem_map_of_mem hw) ?_
        rw [List.findIdx?_cons, htakes, if_pos rfl]
      rw [htaken]
      rfl
    | succ i =>
      refine ih hrest (passed_subset h entry) (Nat.lt_of_succ_lt_succ hi) fun field hfield hfirst =>
        ?_
      rw [map_fst_passed] at hfield
      obtain ⟨hwritten, hpasses⟩ := List.mem_filter.mp hfield
      rw [hentry.isEntryOf_eq, Bool.not_eq_true'] at hpasses
      refine hnone field hwritten ?_
      rw [List.findIdx?_cons, hpasses, if_neg Bool.false_ne_true, hfirst, Option.map_some]

lemma merged_mergeAll {compiled : List Json} (hcompiled : ∀ entry ∈ compiled, IsEntry entry)
    (h : ∀ w ∈ ws, w.1 ≠ distanceSortMember ∧ Entries.Ascending w.2) :
    Merged ws compiled (mergeAll ws compiled) where
  changed _ _ _ hi := getElem?_mergeAll_changed hcompiled (fun w hw => (h w hw).1) hi
  unchanged _ hi hnone :=
    getElem?_mergeAll_unchanged hcompiled (fun w hw => (h w hw).1) hi hnone
  added := drop_mergeAll hcompiled h

end SortPatch

open SortPatch (isKeyed IsEntry Merged)

namespace SortKey

variable {x : Context} {k : SortKey} {keys : List SortKey} {entry : Json} {compiled : List Json}

def fieldIn (x : Context) (k : SortKey) : Option String :=
  match k.subject with
  | .column => x.fieldOf k.column
  | .distance _ => none

structure Yields (x : Context) (k : SortKey) (entry : Json) : Prop where
  isEntry : IsEntry entry
  keyed : ∀ field, isKeyed field entry = true ↔ k.fieldIn x = some field

lemma yields_of_compile (hk : k.fieldIn x ≠ some distanceSortMember)
    (h : x.result k.compile = .ok entry) : k.Yields x entry := by
  rw [compile] at h
  rw [fieldIn] at hk
  cases hsubject : k.subject with
  | column =>
    rw [hsubject] at h hk
    obtain ⟨field, hfield, hentry⟩ := (Context.result_bind_eq_ok _ _ _ _).mp h
    obtain rfl := Except.ok.inj hentry
    rw [Context.fieldOf_eq_some_iff.mpr hfield] at hk
    have hne : field ≠ distanceSortMember := fun heq => hk (congrArg some heq)
    refine ⟨.field hne, fun other => ?_⟩
    rw [SortPatch.isKeyed_single hne, fieldIn, hsubject, Context.fieldOf_eq_some_iff.mpr hfield]
    simp [eq_comm]
  | distance point =>
    rw [hsubject] at h
    obtain rfl := Except.ok.inj h
    refine ⟨.distance, fun other => ?_⟩
    rw [fieldIn, hsubject]
    constructor
    · intro hkeyed
      cases (SortPatch.isKeyed_distance _).symm.trans hkeyed
    · rintro ⟨⟩

lemma yields_of_compileList (hkeys : ∀ k ∈ keys, k.fieldIn x ≠ some distanceSortMember)
    (h : x.result (compileList keys) = .ok compiled) :
    List.Forall₂ (Yields x) keys compiled := by
  have heach : List.Forall₂ (fun k entry => k.fieldIn x ≠ some distanceSortMember ∧
      x.result k.compile = .ok entry) keys compiled :=
    (List.forall₂_and_left keys compiled).mpr ⟨hkeys, Context.result_mapM_eq_ok.mp h⟩
  exact heach.imp fun k entry ⟨hk, hentry⟩ => yields_of_compile hk hentry

lemma isEntry_of_yields (h : List.Forall₂ (Yields x) keys compiled) :
    ∀ entry ∈ compiled, IsEntry entry := by
  induction h with
  | nil => simp
  | cons hk _ ih => exact List.forall_mem_cons.mpr ⟨hk.isEntry, ih⟩

end SortKey

theorem sortSection_merges (x : Context) {keys : List SortKey} {compiled : List Json}
    (hcompiled : x.result (SortKey.compileList keys) = .ok compiled)
    (hkeys : ∀ k ∈ keys, k.fieldIn x ≠ some distanceSortMember)
    (ps : List SortPatch) (hps : ∀ p ∈ ps, x.Takes p) :
    List.Forall₂ (SortKey.Yields x) keys compiled ∧
      ∃ merged, x.result (sortSection keys ps) = .ok merged ∧
        Merged (x.writes ps) compiled merged := by
  have hyields := SortKey.yields_of_compileList hkeys hcompiled
  refine ⟨hyields, SortPatch.mergeAll (x.writes ps) compiled, ?_,
    SortPatch.merged_mergeAll (SortKey.isEntry_of_yields hyields) (Context.writes_takes hps)⟩
  rw [sortSection, Context.result_bind, hcompiled]
  exact Context.result_applyAll hps compiled

def SortKey.repeated : List SortKey := [
  { column := "name" },
  { column := "place", subject := .distance ⟨.zero, .zero⟩ },
  { column := "name.keyword", direction := .descending }]

lemma SortKey.fieldIn_repeated :
    ∀ k ∈ repeated, k.fieldIn Context.staff ≠ some distanceSortMember := by
  have hname : Context.staff.fieldOf "name" = some "name.keyword" := rfl
  have hkeyword : Context.staff.fieldOf "name.keyword" = some "name.keyword" := rfl
  simp [repeated, fieldIn, hname, hkeyword, distanceSortMember]

def SortKey.repeatedDistance : Json :=
  let zero : Json := .number (.float .zero)
  .single "_geo_distance" (.object [("order", .string "asc"),
    ("place", .object [("lat", zero), ("lon", zero)]), ("unit", .string "km")])

def SortKey.repeatedEntries : List Json := [
  .single "name.keyword" (.single "order" (.string "asc")),
  repeatedDistance,
  .single "name.keyword" (.single "order" (.string "desc"))]

def SortKey.repeatedMerged : List Json := [
  .single "name.keyword" (.object [("missing", .string "_last"), ("order", .string "asc")]),
  repeatedDistance,
  .single "name.keyword" (.single "order" (.string "desc")),
  .single "age" (.single "order" (.string "desc"))]

def SortPatch.respelledWrites : Writes := [
  ("name.keyword", [("missing", .string "_first"), ("order", .string "asc")]),
  ("name.keyword", [("missing", .string "_last")]),
  ("age", [("order", .string "desc")])]

theorem sortSection_merges_repeated :
    Context.staff.result (SortKey.compileList SortKey.repeated) = .ok SortKey.repeatedEntries ∧
      (∀ k ∈ SortKey.repeated, k.fieldIn Context.staff ≠ some distanceSortMember) ∧
      (∀ p ∈ SortPatch.respelled, Context.staff.Takes p) ∧
      List.Forall₂ (SortKey.Yields Context.staff) SortKey.repeated SortKey.repeatedEntries ∧
      Context.staff.result (sortSection SortKey.repeated SortPatch.respelled) =
        .ok SortKey.repeatedMerged ∧
      Merged SortPatch.respelledWrites SortKey.repeatedEntries SortKey.repeatedMerged := by
  have hcompiled : Context.staff.result (SortKey.compileList SortKey.repeated) =
      .ok SortKey.repeatedEntries := rfl
  have hmerged : Context.staff.result (sortSection SortKey.repeated SortPatch.respelled) =
      .ok SortKey.repeatedMerged := rfl
  have hwrites : Context.staff.writes SortPatch.respelled = SortPatch.respelledWrites := rfl
  obtain ⟨hyields, merged, hmerged', hmerges⟩ := sortSection_merges Context.staff hcompiled
    SortKey.fieldIn_repeated SortPatch.respelled SortPatch.takes_respelled
  obtain rfl : SortKey.repeatedMerged = merged := Except.ok.inj (hmerged.symm.trans hmerged')
  rw [hwrites] at hmerges
  exact ⟨hcompiled, SortKey.fieldIn_repeated, SortPatch.takes_respelled, hyields, hmerged,
    hmerges⟩

end SearchCompiler
