import SearchCompiler.Proofs.Index.Tree
import SearchCompiler.Proofs.Json.Record

/-! A mapping is read back from a response that holds it: under the name of its index, under
`mappings`, or on its own. The first of these wins, so a mapping on its own is taken for another one
where the index is called `properties` and a field of it `mappings`. -/

namespace SearchCompiler

lemma DataType.ofName_name {type : DataType} {name : String} (h : type = ofName name) :
    ofName type.name = type := by
  cases type with
  | other text =>
    have hname : name = text := by
      unfold ofName at h
      split at h <;> cases h
      rfl
    rw [DataType.name, ← hname, ← h, hname]
  | _ => rfl

namespace Property

variable {p : Property} {t : List (String × Property)}

def Declared (p : Property) : Prop :=
  ∀ type, p.type = some type → ∃ name, type = DataType.ofName name

lemma get?_tableToJson (name : String) (t : List (String × Property)) :
    Entries.get? name (tableToJson t) = (Entries.get? name t).map toJson := by
  induction t with
  | nil => rfl
  | cons e rest ih =>
    rw [tableToJson, Entries.get?, Entries.get?, ih]
    split <;> rfl

lemma optionalToJson_eq_map (o : Option (List (String × Property))) :
    optionalToJson o = o.map fun t => .object (tableToJson t) := by
  cases o <;> rfl

def jsonMembers (p : Property) : List (String × Option Json) := [
  ("type", p.type.map fun type => .string type.name),
  ("properties", p.properties.map fun t => .object (tableToJson t)),
  ("fields", p.variants.map fun t => .object (tableToJson t))]

lemma toJson_eq (p : Property) : p.toJson = .ofMembers p.jsonMembers := by
  obtain ⟨type, properties, variants⟩ := p
  rw [toJson, optionalToJson_eq_map, optionalToJson_eq_map]
  rfl

lemma tableNamed_eq (name : String) (members : Options) : tableNamed name members =
    ((Entries.get? name members).map optionalTable).getD (.ok none) := by
  induction members with
  | nil => rfl
  | cons m rest ih =>
    rw [tableNamed, Entries.get?, ih]
    split <;> rfl

lemma tableOf_tableToJson (h : ∀ e ∈ t, ofJson e.2.toJson = .ok e.2) :
    tableOf (tableToJson t) = .ok t := by
  induction t with
  | nil => rfl
  | cons e rest ih =>
    obtain ⟨he, hrest⟩ := List.forall_mem_cons.mp h
    rw [tableToJson, tableOf, he, ih hrest]
    rfl

lemma tableNamed_of_has {members : Options} {ms : List (String × Option Json)} {name : String}
    {o : Option (List (String × Property))} (hr : Record.Has { members } ms)
    (hname : Entries.get? name ms = some (o.map fun t => .object (tableToJson t)))
    (h : ∀ e ∈ o.getD [], ofJson e.2.toJson = .ok e.2) : tableNamed name members = .ok o := by
  rw [tableNamed_eq, hr name, hname]
  cases o with
  | none => rfl
  | some t =>
    have ht : tableOf (tableToJson t) = .ok t := tableOf_tableToJson h
    change (tableOf (tableToJson t)).map some = _
    rw [ht]
    rfl

lemma ofJson_toJson (h : p.Everywhere Declared) : ofJson p.toJson = .ok p := by
  induction p using table_induction with
  | h p ih =>
    have htable (branch : Branch) : ∀ e ∈ p.table branch, ofJson e.2.toJson = .ok e.2 :=
      fun e he => ih branch e.1 e.2 he (h.below he)
    rw [toJson_eq]
    refine Json.read_ofMembers (by simp [jsonMembers]) fun members hr => ?_
    have htype : Options.optional members "type" DataType.ofJson = .ok p.type := by
      have hget : Entries.get? "type" members = p.type.map fun type => .string type.name :=
        hr "type"
      rw [Options.optional, Options.withDefault, hget]
      cases hp : p.type with
      | none => rfl
      | some type =>
        obtain ⟨name, hname⟩ := h.self type hp
        change Except.ok (some (DataType.ofName type.name)) = _
        rw [DataType.ofName_name hname]
    rw [ofJson, htype, tableNamed_of_has hr rfl (htable .properties),
      tableNamed_of_has hr rfl (htable .variants)]
    -- `Property` contains itself, so `p` is not the structure of its fields by definition
    cases p with
    | mk type properties variants => rfl

end Property

namespace Mapping

open Property (Declared)

variable {m : Mapping} {index : String}

lemma get?_toJson (m : Mapping) (name : String) : m.toJson.get? name =
    if name = "properties" then some (.object (Property.tableToJson m.properties)) else none :=
  Json.get?_single _ _ _

lemma ofJson_toJson (h : m.root.Everywhere Declared) : ofJson m.toJson = .ok m := by
  refine Json.toRecord_record (by simp) fun r hr => ?_
  have htable : tableOf (.object (Property.tableToJson m.properties)) = .ok m.properties :=
    Property.tableOf_tableToJson fun e he => Property.ofJson_toJson (h.of_mem_properties he)
  rw [hr.withDefault rfl htable]
  rfl

lemma ofJson_property {p : Property} (h : p.Everywhere Declared) :
    ofJson p.toJson = .ok ⟨p.properties.getD []⟩ := by
  rw [Property.toJson_eq]
  refine Json.toRecord_ofMembers (by simp [Property.jsonMembers]) fun r hr => ?_
  have hget : Entries.get? "properties" r.members =
      p.properties.map fun t => .object (Property.tableToJson t) := hr "properties"
  have hread : r.withDefault "properties" [] tableOf = .value (p.properties.getD []) := by
    rw [Record.withDefault, Options.withDefault, hget]
    cases hp : p.properties with
    | none => rfl
    | some t =>
      have htable : Property.tableOf (Property.tableToJson t) = .ok t :=
        Property.tableOf_tableToJson fun e he =>
          Property.ofJson_toJson (h.of_mem_properties (by rwa [hp]))
      exact congrArg (Reading.ofRead _) htable
  rw [hread]
  rfl

lemma ofResponse_eq {response body : Json} (hbody : bodyOf index response = body)
    (hobject : body.isObject = true) : ofResponse index response = ofJson body := by
  rw [ofResponse, hbody]
  exact if_pos hobject

lemma bodyOf_of_some {response body : Json}
    (h : (response.get? index).bind (fun v => v.get? "mappings") = some body) :
    bodyOf index response = body := by
  rw [bodyOf, h]

lemma bodyOf_of_none {response : Json}
    (h : (response.get? index).bind (fun v => v.get? "mappings") = none) :
    bodyOf index response = (response.get? "mappings").getD response := by
  rw [bodyOf, h]

lemma bodyOf_indexed (index : String) (body : Json) :
    bodyOf index (.single index (.single "mappings" body)) = body := by
  refine bodyOf_of_some ?_
  rw [Json.get?_single, if_pos rfl, Option.bind_some, Json.get?_single, if_pos rfl]

lemma bodyOf_named (m : Mapping) (index : String) :
    bodyOf index (.single "mappings" m.toJson) = m.toJson := by
  have hnone : ((Json.single "mappings" m.toJson).get? index).bind
      (fun v => v.get? "mappings") = none := by
    rw [Json.get?_single]
    split
    · exact get?_toJson m "mappings"
    · rfl
  rw [bodyOf_of_none hnone, Json.get?_single, if_pos rfl, Option.getD_some]

lemma bodyOf_bare (h : index ≠ "properties" ∨ Entries.get? "mappings" m.properties = none) :
    bodyOf index m.toJson = m.toJson := by
  have hnone : (m.toJson.get? index).bind (fun v => v.get? "mappings") = none := by
    rw [get?_toJson]
    split
    · rename_i hindex
      have hfield := h.resolve_left (not_not.mpr hindex)
      change Entries.get? "mappings" (Property.tableToJson m.properties) = none
      rw [Property.get?_tableToJson, hfield, Option.map_none]
    · rfl
  rw [bodyOf_of_none hnone, get?_toJson, if_neg (by decide), Option.getD_none]

lemma bodyOf_shadowed {field : Property} (h : Entries.get? "mappings" m.properties = some field) :
    bodyOf "properties" m.toJson = field.toJson := by
  refine bodyOf_of_some ?_
  rw [get?_toJson, if_pos rfl, Option.bind_some]
  change Entries.get? "mappings" (Property.tableToJson m.properties) = some field.toJson
  rw [Property.get?_tableToJson, h, Option.map_some]

/-- What is read from the responses that hold `m`. On its own `m` is shadowed when the index is
called `properties` and `m` has a field `mappings`: its JSON form then holds a mapping under the
name of the index, that of the properties below this field. -/
structure ReadsEnvelopes (m : Mapping) (index : String) : Prop where
  indexed : ofResponse index (.single index (.single "mappings" m.toJson)) = .ok m
  named : ofResponse index (.single "mappings" m.toJson) = .ok m
  bare : index ≠ "properties" ∨ Entries.get? "mappings" m.properties = none →
    ofResponse index m.toJson = .ok m
  shadowed : ∀ field, index = "properties" → Entries.get? "mappings" m.properties = some field →
    ofResponse index m.toJson = .ok ⟨field.properties.getD []⟩

theorem reads_envelopes (index : String) (h : m.root.Everywhere Declared) :
    m.ReadsEnvelopes index := by
  have hread {response : Json} (hbody : bodyOf index response = m.toJson) :
      ofResponse index response = .ok m := by
    rw [ofResponse_eq hbody rfl]
    exact ofJson_toJson h
  constructor
  · exact hread (bodyOf_indexed index m.toJson)
  · exact hread (bodyOf_named m index)
  · intro hapart
    exact hread (bodyOf_bare hapart)
  · rintro field rfl hfield
    have hobject : field.toJson.isObject = true := by
      rw [Property.toJson_eq]
      rfl
    have hdeclared : field.Everywhere Declared :=
      h.of_mem_properties (Entries.mem_of_get? hfield)
    rw [ofResponse_eq (bodyOf_shadowed hfield) hobject, ofJson_property hdeclared]

lemma declared_of_named {p : Property} (name : String) (h : p.type = some (.ofName name)) :
    Declared p := by
  intro type htype
  exact ⟨name, Option.some.inj (htype.symm.trans h)⟩

lemma declared_root (m : Mapping) : Declared m.root := by
  rintro type ⟨⟩

def notes : Mapping where
  properties := [("body", .ofType (.other "semantic_text")), ("votes", .ofType .long)]

lemma declared_notes : notes.root.Everywhere Declared := by
  refine Property.everywhere_of_leaves (declared_root notes) ?_
  have hbody : Declared (.ofType (.other "semantic_text")) :=
    declared_of_named "semantic_text" rfl
  have hvotes : Declared (.ofType .long) := declared_of_named "long" rfl
  rintro (_ | _) <;> simp [Property.table, root, notes, hbody, hvotes]

theorem reads_envelopes_notes :
    notes.root.Everywhere Declared ∧ notes.ReadsEnvelopes "properties" :=
  ⟨declared_notes, reads_envelopes "properties" declared_notes⟩

def titled : Mapping where
  properties := [("title", .ofType .keyword)]

def titledMappings : Mapping where
  properties := [("mappings", titled.root)]

/-- One response is an envelope of the one mapping and the bare form of the other, so no reading of
it gives both. -/
lemma toJson_titledMappings :
    titledMappings.toJson = .single "properties" (.single "mappings" titled.toJson) := rfl

lemma declared_titled : titled.root.Everywhere Declared := by
  refine Property.everywhere_of_leaves (declared_root titled) ?_
  have htitle : Declared (.ofType .keyword) := declared_of_named "keyword" rfl
  rintro (_ | _) <;> simp [Property.table, root, titled, htitle]

theorem bare_titledMappings : titledMappings.root.Everywhere Declared ∧
    ofResponse "properties" titledMappings.toJson ≠ .ok titledMappings := by
  refine ⟨?_, ?_⟩
  · rw [Property.everywhere_iff]
    refine ⟨declared_root titledMappings, ?_⟩
    rintro (_ | _) name q hq
    · obtain ⟨-, rfl⟩ := Prod.mk.inj (List.mem_singleton.mp hq)
      exact declared_titled
    · cases hq
  · have hread : ofResponse "properties" titledMappings.toJson = .ok titled := by
      rw [toJson_titledMappings, ofResponse_eq (bodyOf_indexed "properties" titled.toJson) rfl]
      exact ofJson_toJson declared_titled
    rw [hread]
    intro heq
    simp [titled, titledMappings] at heq

end Mapping

end SearchCompiler
