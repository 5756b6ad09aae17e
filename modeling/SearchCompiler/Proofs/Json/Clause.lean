import SearchCompiler.Clause.Json
import SearchCompiler.Proofs.Json.Sorting

/-! Clauses are read back as they were written, whatever their form and however deep they nest. -/

namespace SearchCompiler

open Json (Restores)

lemma Combinator.restores (placement : Placement) :
    Restores (ofJson placement) fun k => .string k.name := by
  intro k
  cases k <;> rfl

namespace Condition

variable {r : Record} {rest : List (String × Option Json)}

lemma ofRecord_name (c : Condition)
    (hr : r.Has (c.members.map (fun m => (m.1, some m.2)) ++ rest)) :
    ofRecord r c.name = some (.value c) := by
  cases c with
  | compare column op value | onDay column op value =>
    rw [name, ofRecord, hr.required rfl (Json.restores_text column),
      hr.required rfl (Operator.restores op), hr.required rfl (Json.restores_any value)]
    rfl
  | oneOf column values =>
    rw [name, ofRecord, hr.required rfl (Json.restores_text column),
      hr.required rfl (Json.restores_array values)]
    rfl
  | between column low high =>
    rw [name, ofRecord, hr.required rfl (Json.restores_text column),
      hr.required rfl (Json.restores_pair (low, high))]
    rfl
  | text style column value =>
    cases style <;>
    · rw [name, ofRecord, hr.required rfl (Json.restores_text column),
        hr.required rfl (Json.restores_any value)]
      rfl
  | term column value =>
    rw [name, ofRecord, hr.required rfl (Json.restores_text column),
      hr.required rfl (Json.restores_any value)]
    rfl
  | pattern style column source =>
    cases style <;>
    · rw [name, ofRecord, hr.required rfl (Json.restores_text column),
        hr.required rfl (Json.restores_text source)]
      rfl
  | script source =>
    rw [name, ofRecord, hr.required rfl (Json.restores_text source)]
    rfl
  | multiMatch columns value =>
    rw [name, ofRecord, hr.required rfl (Json.restores_strings columns),
      hr.required rfl (Json.restores_any value)]
    rfl
  | queryString columns query =>
    rw [name, ofRecord, hr.withDefault rfl (Json.restores_strings columns),
      hr.required rfl (Json.restores_text query)]
    rfl
  | present column =>
    rw [name, ofRecord, hr.required rfl (Json.restores_text column)]
    rfl
  | within column point distance =>
    rw [name, ofRecord, hr.required rfl (Json.restores_text column),
      hr.required rfl (Coordinates.restores point), hr.required rfl (Json.restores_text distance)]
    rfl
  | inBox column topLeft bottomRight =>
    rw [name, ofRecord, hr.required rfl (Json.restores_text column),
      hr.required rfl (Coordinates.restores topLeft),
      hr.required rfl (Coordinates.restores bottomRight)]
    rfl
  | childOf childType id =>
    rw [name, ofRecord, hr.required rfl (Json.restores_text childType),
      hr.required rfl (Json.restores_any id)]
    rfl
  | raw fragment =>
    rw [name, ofRecord, hr.required rfl (Json.restores_any fragment)]
    rfl

end Condition

namespace Clause

def ownMembers (form : ClauseForm Clause) : List (String × Option Json) :=
  (formMembers form).map fun m => (m.1, some m.2)

def sharedNames : List String := ["type", "combinator", "negate", "options"]

def sharedMembers (c : Clause) : List (String × Option Json) :=
  [("type", some (.string c.form.name)), ("combinator", some (.string c.combinator.name)),
    ("negate", some (.bool c.negate)),
    ("options", if c.options.isEmpty then none else some (.object c.options))]

lemma names_nodup (form : ClauseForm Clause) :
    ((ownMembers form).map Prod.fst ++ sharedNames).Nodup := by
  cases form with
  | condition c => cases c <;> simp [ownMembers, sharedNames, formMembers, Condition.members]
  | nested form path clauses =>
    cases form <;> simp [ownMembers, sharedNames, formMembers, nestedMembers]
  | functionScore function params clauses => simp [ownMembers, sharedNames, formMembers]
  | related relative type query filter =>
    cases relative <;> simp [ownMembers, sharedNames, formMembers, relativeMember]

lemma has_toJson (c : Clause) :
    Record.Has { members := c.toJson.members } (ownMembers c.form ++ sharedMembers c) := by
  obtain ⟨form, combinator, negate, options⟩ := c
  rw [toJson]
  refine Json.get?_ofMembers ?_
  rw [List.map_append]
  exact names_nodup form

lemma get?_shared (c : Clause) {name : String} (hname : name ∈ sharedNames) :
    Entries.get? name (ownMembers c.form ++ sharedMembers c) =
      Entries.get? name (sharedMembers c) := by
  refine Entries.get?_append_of_not_mem ?_ _
  intro hmem
  exact (List.nodup_append.mp (names_nodup c.form)).2.2 name hmem name hname rfl

lemma get?_type_toJson (c : Clause) : c.toJson.get? "type" = some (.string c.form.name) := by
  rw [Json.get?, has_toJson c "type", get?_shared c (by simp [sharedNames])]
  rfl

lemma ofJson_object {members : Options} {c : Clause}
    (hr : Record.Has { members } (ownMembers c.form ++ sharedMembers c))
    (hform : ClauseForm.ofRecord { members } (fun name => clausesNamed name members) c.form.name =
      some (.value c.form)) (placement : Placement) :
    ofJson placement (.object members) = .ok c := by
  have htype : (Entries.get? "type" members).bind ClauseForm.tag? = some c.form.name := by
    rw [hr "type", get?_shared c (by simp [sharedNames])]
    rfl
  rw [ofJson,
    hr.withDefault (get?_shared c (by simp [sharedNames]))
      (Combinator.restores placement c.combinator),
    hr.withDefault (get?_shared c (by simp [sharedNames])) (Json.restores_bool c.negate),
    hr.options (get?_shared c (by simp [sharedNames]))]
  simp only [htype, hform]
  -- `Clause` contains itself, so `c` is not the structure of its fields by definition.
  cases c with
  | mk form combinator negate options => rfl

lemma clausesNamed_eq (name : String) (ms : Options) :
    clausesNamed name ms = (Entries.get? name ms).map subClauses := by
  induction ms with
  | nil => rfl
  | cons m ms ih =>
    obtain ⟨key, v⟩ := m
    rw [clausesNamed, Entries.get?, ih]
    split <;> rfl

section

variable {r : Record} {ms : List (String × Option Json)}

lemma member_clauses (hr : r.Has ms) {name : String} {cs : List Clause}
    (hv : Entries.get? name ms = some (some (.array (listToJson cs))))
    (hcs : embeddedClauses (listToJson cs) = .ok cs) (fallback : Read (List Clause)) :
    r.member name ((clausesNamed name r.members).getD fallback) = .value cs := by
  rw [clausesNamed_eq, hr name, hv]
  exact congrArg (Reading.ofRead _) hcs

lemma ofRecord_condition (sub : String → Option (Read (List Clause))) (c : Condition) :
    ClauseForm.ofRecord r sub c.name = (Condition.ofRecord r c.name).map (.condition <$> ·) := by
  cases c with
  | text style | pattern style => cases style <;> rfl
  | _ => rfl

end

mutual

lemma ofJson_toJson (placement : Placement) : (c : Clause) → ofJson placement c.toJson = .ok c
  | ⟨form, combinator, negate, options⟩ => by
    have hr := has_toJson ⟨form, combinator, negate, options⟩
    have hobject := ofJson_object hr (ofRecord_of_has form hr) placement
    rw [toJson] at hobject ⊢
    exact hobject

lemma ofRecord_of_has : (form : ClauseForm Clause) → ∀ {r : Record} {rest},
    r.Has (ownMembers form ++ rest) →
      ClauseForm.ofRecord r (fun name => clausesNamed name r.members) form.name =
        some (.value form)
  | .condition c, r, rest, hr => by
    rw [ownMembers, formMembers] at hr
    rw [ClauseForm.name, ofRecord_condition, Condition.ofRecord_name c hr]
    rfl
  | .nested form path clauses, r, rest, hr => by
    have hclauses := embeddedClauses_listToJson clauses
    cases form with
    | plain | required =>
      rw [ClauseForm.name, ClauseForm.ofRecord, hr.required rfl (Json.restores_text path),
        member_clauses hr rfl hclauses]
      rfl
    | inner keys offset limit =>
      rw [ClauseForm.name, ClauseForm.ofRecord, hr.required rfl (Json.restores_text path),
        member_clauses hr rfl hclauses, hr.withDefault rfl ((SortKey.restores .embedded).list keys),
        hr.optional rfl (Json.restores_countOption offset),
        hr.optional rfl (Json.restores_countOption limit)]
      rfl
  | .functionScore function params clauses, r, rest, hr => by
    have hclauses := embeddedClauses_listToJson clauses
    rw [ClauseForm.name, ClauseForm.ofRecord, hr.required rfl (Json.restores_text function),
      hr.withDefault rfl (Json.restores_any params), member_clauses hr rfl hclauses]
    rfl
  | .related relative type query filter, r, rest, hr => by
    have hquery := embeddedClauses_listToJson query
    have hfilter := embeddedClauses_listToJson filter
    cases relative with
    | parent | child =>
      rw [ClauseForm.name, ClauseForm.ofRecord]
      beta_reduce
      rw [hr.required rfl (Json.restores_text type), member_clauses hr rfl hquery,
        member_clauses hr rfl hfilter]
      rfl

lemma embeddedClauses_listToJson : (cs : List Clause) →
    embeddedClauses (listToJson cs) = .ok cs
  | [] => rfl
  | c :: cs => by
    rw [listToJson, embeddedClauses, ofJson_toJson, embeddedClauses_listToJson cs]
    rfl

end

lemma listToJson_eq_map (cs : List Clause) : listToJson cs = cs.map toJson := by
  induction cs with
  | nil => rfl
  | cons c cs ih => rw [listToJson, ih, List.map_cons]

lemma restores_list : Restores listOfJson fun cs => .array (listToJson cs) := by
  intro cs
  simp only [listToJson_eq_map]
  exact Json.Restores.list (ofJson_toJson .standalone) cs

lemma name_mem_names (form : ClauseForm Clause) : form.name ∈ ClauseForm.names := by
  cases form with
  | condition c =>
    cases c with
    | text style | pattern style =>
      cases style <;> simp [ClauseForm.name, Condition.name, ClauseForm.names]
    | _ => simp [ClauseForm.name, Condition.name, ClauseForm.names]
  | nested form => cases form <;> simp [ClauseForm.name, ClauseForm.names]
  | functionScore => simp [ClauseForm.name, ClauseForm.names]
  | related relative => cases relative <;> simp [ClauseForm.name, ClauseForm.names]

lemma ofValue_toJson (c : Clause) : ofValue c.toJson = .ok c := by
  rw [ofValue, get?_type_toJson]
  change (if c.form.name ∈ ClauseForm.names then ofJson .standalone c.toJson else _) = _
  rw [if_pos (name_mem_names c.form)]
  exact ofJson_toJson .standalone c

end Clause

end SearchCompiler
