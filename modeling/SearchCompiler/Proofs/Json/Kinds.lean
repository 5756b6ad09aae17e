import SearchCompiler.Proofs.Json.Clause
import SearchCompiler.Proofs.Json.Reading

/-! What becomes of a clause of an unknown kind: on its own it is reported as such, and inside
another clause it makes a document of the wrong form. -/

namespace SearchCompiler

lemma Combinator.readsForm (placement : Placement) : Json.ReadsForm (ofJson placement) := by
  have hname (name : String) : (ofName name).ByForm := by
    rw [ofName.eq_def]
    split
    · exact .ok _
    · exact .ok _
    · exact .misshapen
  intro v
  rw [ofJson.eq_def]
  split
  · exact hname _
  · exact hname _
  · split
    · exact hname _
    · exact .misshapen
  · exact .misshapen

namespace Condition

lemma ofRecord_byForm (r : Record) (name : String) : ∀ x ∈ ofRecord r name, x.ByForm := by
  have hread {α : Type} {read : Json → Read α} (h : Json.ReadsForm read) (member : String) :
      (r.required member read).ByForm := Record.required_byForm h member
  have htexts : Json.ReadsForm (Json.toList Json.toText) := Json.readsForm_text.list
  have hcolumn := hread Json.readsForm_text "column"
  have hop := hread Operator.readsForm "operator"
  have hany := hread Json.readsForm_any "value"
  have htext := hread Json.readsForm_text "value"
  rw [ofRecord.eq_def]
  dsimp only
  split
  case h_1 | h_15 => exact (((hcolumn.map _).seq hop).seq hany).forall_mem
  case h_2 => exact ((hcolumn.map _).seq (hread Json.readsForm_any.list _)).forall_mem
  case h_3 => exact ((hcolumn.map _).seq (hread Json.readsForm_pair _)).forall_mem
  case h_4 | h_5 | h_6 | h_7 | h_8 => exact ((hcolumn.map _).seq hany).forall_mem
  case h_9 | h_10 => exact ((hcolumn.map _).seq htext).forall_mem
  case h_11 => exact ((hread Json.readsForm_text _).map _).forall_mem
  case h_12 => exact (((hread htexts _).map _).seq hany).forall_mem
  case h_13 =>
    have hcolumns := Record.withDefault_byForm (r := r) htexts "columns" []
    exact ((hcolumns.map _).seq htext).forall_mem
  case h_14 => exact (hcolumn.map _).forall_mem
  case h_16 =>
    have hpoint := hread Coordinates.readsForm "point"
    have hdistance := hread Json.readsForm_text "distance"
    exact (((hcolumn.map _).seq hpoint).seq hdistance).forall_mem
  case h_17 =>
    have htop := hread Coordinates.readsForm "top_left"
    have hbottom := hread Coordinates.readsForm "bottom_right"
    exact (((hcolumn.map _).seq htop).seq hbottom).forall_mem
  case h_18 =>
    have htype := hread Json.readsForm_text "child_type"
    exact ((htype.map _).seq (hread Json.readsForm_any "id")).forall_mem
  case h_19 => exact ((hread Json.readsForm_any _).map _).forall_mem
  case h_20 => rintro x ⟨⟩

lemma ofRecord_of_not_mem {name : String} (h : name ∉ ClauseForm.names) (r : Record) :
    ofRecord r name = none := by
  rw [ofRecord.eq_def]
  dsimp only
  split
  case h_20 => rfl
  all_goals exact (h (by decide)).elim

end Condition

namespace ClauseForm

variable {α : Type} {r : Record} {sub : String → Option (Read (List α))}

def subMembers : String → List String
  | "nested" | "nested_object" | "inner_nested" | "function_score" => ["clauses"]
  | "parent" | "child" => ["query", "filter"]
  | _ => []

lemma ofRecord_byForm (hsub : ∀ member, ∀ cs ∈ sub member, cs.ByForm) (name : String) :
    ∀ x ∈ ofRecord r sub name, x.ByForm := by
  have htext (member : String) : (r.required member Json.toText).ByForm :=
    Record.required_byForm Json.readsForm_text member
  have hcount (member : String) : (r.optional member Json.toCount).ByForm :=
    Record.optional_byForm Json.readsForm_count member
  have hgetD {member : String} {fallback : Read (List α)} (hf : fallback.ByForm) :
      (r.member member ((sub member).getD fallback)).ByForm := by
    refine Record.member_byForm ?_ member
    cases hm : sub member with
    | none => exact hf
    | some cs => exact hsub member cs hm
  rw [ofRecord.eq_def]
  dsimp only
  split
  case h_1 | h_2 => exact (((htext _).map _).seq (hgetD .misshapen)).forall_mem
  case h_3 =>
    have hkeys := Record.withDefault_byForm (r := r) (SortKey.readsForm .embedded).list "orders" []
    have hform := ((hkeys.map NestedForm.inner).seq (hcount "offset")).seq (hcount "limit")
    exact (((hform.map _).seq (htext _)).seq (hgetD .misshapen)).forall_mem
  case h_4 =>
    have hparams := Record.withDefault_byForm (r := r) Json.readsForm_any "params" .null
    exact ((((htext _).map _).seq hparams).seq (hgetD .misshapen)).forall_mem
  case h_5 | h_6 =>
    exact ((((htext _).map _).seq (hgetD (.ok []))).seq (hgetD (.ok []))).forall_mem
  case h_7 =>
    intro x hx
    obtain ⟨y, hy, rfl⟩ := Option.map_eq_some_iff.mp hx
    exact (Condition.ofRecord_byForm r name y hy).map _

lemma ofRecord_of_not_mem {name : String} (h : name ∉ names) : ofRecord r sub name = none := by
  rw [ofRecord.eq_def]
  dsimp only
  split
  case h_7 => rw [Condition.ofRecord_of_not_mem h, Option.map_none]
  all_goals exact (h (by decide)).elim

lemma exists_of_seq_member {β : Type} {f : Reading (List α → β)} {member : String}
    {x : Read (List α)} {b : β} (h : f <*> r.member member x = .value b) :
    (∃ as, x = .ok as) ∧ ∃ g, f = .value g := by
  obtain ⟨g, as, hf, hx, -⟩ := Reading.seq_eq_value.mp h
  exact ⟨⟨as, Reading.ofRead_eq_value.mp hx⟩, g, hf⟩

lemma exists_of_ofRecord {name member : String} {form : ClauseForm α} {cs : Read (List α)}
    (h : ofRecord r sub name = some (.value form)) (hmember : member ∈ subMembers name)
    (hcs : sub member = some cs) : ∃ as, cs = .ok as := by
  have hgetD (fallback : Read (List α)) : (sub member).getD fallback = cs := by
    rw [hcs, Option.getD_some]
  rw [subMembers.eq_def] at hmember
  split at hmember
  case h_7 => cases hmember
  case h_5 | h_6 =>
    obtain ⟨hfilter, g, hg⟩ := exists_of_seq_member (Option.some.inj h)
    obtain ⟨hquery, -⟩ := exists_of_seq_member hg
    simp only [List.mem_cons, List.not_mem_nil, or_false] at hmember
    rcases hmember with rfl | rfl
    · rwa [hgetD] at hquery
    · rwa [hgetD] at hfilter
  all_goals
    obtain rfl := List.mem_singleton.mp hmember
    have h := (exists_of_seq_member (Option.some.inj h)).1
    rwa [hgetD] at h

end ClauseForm

namespace Clause

mutual

lemma ofJson_byForm (placement : Placement) : (v : Json) → (ofJson placement v).ByForm
  | .object members => by
    have hsub (name : String) : ∀ cs ∈ clausesNamed name members, cs.ByForm :=
      clausesNamed_byForm name members
    let r : Record := { members }
    have hcombinator := Record.withDefault_byForm (r := r) (Combinator.readsForm placement)
      "combinator" .and
    have hnegate := Record.withDefault_byForm (r := r) Json.readsForm_bool "negate" false
    have hoptions := Record.withDefault_byForm (r := r) Json.readsForm_options "options" []
    rw [ofJson]
    refine .bind (Record.finish_byForm ?_) fun join => ?_
    · exact ((hcombinator.map _).seq hnegate).seq hoptions
    · split
      · split
        · rename_i form hform
          exact .map (Record.finish_byForm (ClauseForm.ofRecord_byForm hsub _ form hform)) join
        · exact .misshapen
      · exact .misshapen
  | .null | .bool _ | .number _ | .string _ | .array _ => .misshapen

lemma clausesNamed_byForm (name : String) :
    (members : Options) → ∀ cs ∈ clausesNamed name members, cs.ByForm
  | [] => by
    rintro cs ⟨⟩
  | (key, v) :: rest => by
    have hv := subClauses_byForm v
    have hrest := clausesNamed_byForm name rest
    rw [clausesNamed]
    split
    · rintro cs ⟨⟩
      exact hv
    · exact hrest

lemma subClauses_byForm : (v : Json) → (subClauses v).ByForm
  | .array items => embeddedClauses_byForm items
  | .null | .bool _ | .number _ | .string _ | .object _ => .misshapen

lemma embeddedClauses_byForm : (vs : List Json) → (embeddedClauses vs).ByForm
  | [] => .ok []
  | v :: vs => by
    have hv := ofJson_byForm .embedded v
    have hvs := embeddedClauses_byForm vs
    rw [embeddedClauses]
    exact hv.bind fun c => hvs.bind fun cs => .ok (c :: cs)

end

lemma exists_form_of_ofJson {placement : Placement} {v : Json} {c : Clause}
    (h : ofJson placement v = .ok c) :
    ∃ name form, (v.get? "type").bind ClauseForm.tag? = some name ∧
      ClauseForm.ofRecord { members := v.members } (fun member => clausesNamed member v.members)
        name = some (.value form) := by
  cases v with
  | object members =>
    rw [ofJson] at h
    obtain ⟨join, -, h⟩ := Read.bind_eq_ok.mp h
    split at h
    · rename_i name hname
      split at h
      · rename_i x hx
        obtain ⟨form, hform, -⟩ := Read.bind_eq_ok.mp h
        exact ⟨name, form, hname, hx.trans (congrArg some (Record.finish_eq_ok.mp hform).1)⟩
      · cases h
    · cases h
  | _ => cases h

lemma exists_of_embeddedClauses {vs : List Json} {cs : List Clause}
    (h : embeddedClauses vs = .ok cs) : ∀ v ∈ vs, ∃ c, ofJson .embedded v = .ok c := by
  induction vs generalizing cs with
  | nil => exact List.forall_mem_nil _
  | cons v vs ih =>
    rw [embeddedClauses] at h
    obtain ⟨c, hc, h⟩ := Read.bind_eq_ok.mp h
    obtain ⟨cs, hcs, -⟩ := Read.bind_eq_ok.mp h
    exact List.forall_mem_cons.mpr ⟨⟨c, hc⟩, ih hcs⟩

inductive Inside (v : Json) : Json → Prop
  | top : Inside v v
  | sub {u name member items w} : Inside v u →
      (u.get? "type").bind ClauseForm.tag? = some name → member ∈ ClauseForm.subMembers name →
      u.get? member = some (.array items) → w ∈ items → Inside v w

def OfUnknownKind (v : Json) : Prop :=
  ∃ name, v.get? "type" = some (.string name) ∧ name ∉ ClauseForm.names

lemma Inside.exists_ofJson {v u : Json} (h : Inside v u) {placement : Placement} {c : Clause}
    (hv : ofJson placement v = .ok c) : ∃ placement d, ofJson placement u = .ok d := by
  induction h with
  | top => exact ⟨placement, c, hv⟩
  | @sub u name member items w _ hname hmember hitems hw ih =>
    obtain ⟨placement', d, hd⟩ := ih
    obtain ⟨name', form, hname', hform⟩ := exists_form_of_ofJson hd
    obtain rfl := Option.some.inj (hname.symm.trans hname')
    have hclauses : clausesNamed member u.members = some (embeddedClauses items) := by
      rw [clausesNamed_eq, ← Json.get?, hitems]
      rfl
    obtain ⟨cs, hcs⟩ := ClauseForm.exists_of_ofRecord hform hmember hclauses
    obtain ⟨e, he⟩ := exists_of_embeddedClauses hcs w hw
    exact ⟨.embedded, e, he⟩

lemma ofJson_ne_ok_of_unknown {v : Json} (h : OfUnknownKind v) (placement : Placement)
    (c : Clause) : ofJson placement v ≠ .ok c := by
  intro hc
  obtain ⟨name, htype, hname⟩ := h
  obtain ⟨name', form, hname', hform⟩ := exists_form_of_ofJson hc
  rw [htype] at hname'
  obtain rfl : name = name' := Option.some.inj hname'
  rw [ClauseForm.ofRecord_of_not_mem hname] at hform
  cases hform

/-- Unknown kinds keep a document from being read. The outermost one is reported by its name, those
further in are no more than a wrong form, which is not known to be the caller's doing. -/
theorem ofValue_of_unknown_inside {v u : Json} {name : String}
    (htype : v.get? "type" = some (.string name)) (hinside : Inside v u) (hu : OfUnknownKind u) :
    ∃ e, ofValue v = .error e ∧
      (name ∉ ClauseForm.names ∧ e = .unknownClause name ∧ e.isByCaller = true ∨
        name ∈ ClauseForm.names ∧ (∃ fault, e = .misread fault) ∧ e.isByCaller = false) := by
  have hvalue : ofValue v =
      if name ∈ ClauseForm.names then ofJson .standalone v else .error (.unknownClause name) := by
    rw [ofValue, htype]
    rfl
  rw [hvalue]
  by_cases hname : name ∈ ClauseForm.names
  · have hunread (c : Clause) : ofJson .standalone v ≠ .ok c := by
      intro hc
      obtain ⟨placement, d, hd⟩ := hinside.exists_ofJson hc
      exact ofJson_ne_ok_of_unknown hu placement d hd
    obtain ⟨fault, hfault⟩ := (ofJson_byForm .standalone v).exists_eq_error hunread
    rw [if_pos hname]
    exact ⟨_, hfault, .inr ⟨hname, ⟨fault, rfl⟩, rfl⟩⟩
  · rw [if_neg hname]
    exact ⟨_, rfl, .inl ⟨hname, rfl, rfl⟩⟩

def aboutBody (kind : String) : Json :=
  .object [("column", .string "body"), ("type", .string kind)]

def commentsWith (kind : String) : Json :=
  .object [("clauses", .array [aboutBody kind]), ("path", .string "comments"),
    ("type", .string "nested")]

lemma inside_commentsWith (kind : String) : Inside (commentsWith kind) (aboutBody kind) := by
  have hname : ((commentsWith kind).get? "type").bind ClauseForm.tag? = some "nested" := rfl
  have hmember : "clauses" ∈ ClauseForm.subMembers "nested" := List.mem_singleton.mpr rfl
  exact .sub .top hname hmember rfl (List.mem_singleton.mpr rfl)

lemma unknown_aboutBody : OfUnknownKind (aboutBody "existence") := ⟨"existence", rfl, by decide⟩

theorem ofValue_of_unknown_inside_comments :
    (commentsWith "existence").get? "type" = some (.string "nested") ∧
      Inside (commentsWith "existence") (aboutBody "existence") ∧
      OfUnknownKind (aboutBody "existence") ∧
      ∃ e, ofValue (commentsWith "existence") = .error e ∧
        ("nested" ∉ ClauseForm.names ∧ e = .unknownClause "nested" ∧ e.isByCaller = true ∨
          "nested" ∈ ClauseForm.names ∧ (∃ fault, e = .misread fault) ∧ e.isByCaller = false) :=
  ⟨rfl, inside_commentsWith _, unknown_aboutBody,
    ofValue_of_unknown_inside rfl (inside_commentsWith _) unknown_aboutBody⟩

/-- But for the one unknown kind the document would be read, and that kind is not reported. -/
theorem comments_hide_unknown :
    ofValue (commentsWith "exists") =
        .ok (.nested "comments" [.ofCondition (.present "body")]) ∧
      OfUnknownKind (aboutBody "existence") ∧
      Inside (commentsWith "existence") (aboutBody "existence") ∧
      ∀ e, ofValue (commentsWith "existence") = .error e →
        (∀ kind, e ≠ .unknownClause kind) ∧ e.isByCaller = false := by
  refine ⟨rfl, unknown_aboutBody, inside_commentsWith _, ?_⟩
  rintro e ⟨⟩
  refine ⟨?_, rfl⟩
  intro kind h
  cases h

end Clause

end SearchCompiler
