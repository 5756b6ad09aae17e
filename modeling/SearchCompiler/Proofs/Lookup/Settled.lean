import SearchCompiler.Proofs.Lookup.Resolution

/-! What a column is taken for is taken for itself. A path that was found in a mapping is caught by
no earlier rule, since behind a column that they let pass it goes on with a dot if at all, and it
is the first path at or below itself. -/

namespace SearchCompiler

namespace FieldTable

variable {t : FieldTable} {field path : String}

lemma Exact.smallest_self (h : t.Exact field path) : t.Smallest path path := by
  obtain ⟨type, htype, -, hexact⟩ := h
  refine ⟨⟨type, htype, .inl rfl, hexact⟩, ?_⟩
  rintro other ⟨-, -, hbelow, -⟩ hne
  have hnlt : ¬ other < path := not_lt_of_startsWith (startsWith_of_covers (covers_iff.mpr hbelow))
  exact Text.bytes_lt_bytes.mpr (Std.lt_of_le_of_ne (Std.not_lt.mp hnlt) hne.symm)

end FieldTable

namespace Source

variable {s : Source} {m m' : Memory} {column path : String}

lemma wellKnown?_self {known : String} (h : wellKnown? column = some known) :
    wellKnown? known = some known := by
  rw [wellKnown?] at h
  split at h
  · obtain rfl := Option.some.inj h
    rfl
  · split at h
    · rename_i hpseudo
      obtain rfl := Option.some.inj h
      exact wellKnown?_of_pseudo hpseudo
    · cases h

lemma dot_not_mem_of_engine (h : column ∈ engineColumns) : '.' ∉ column.toList := by
  have hall : ∀ c ∈ engineColumns, '.' ∉ c.toList := by decide
  exact hall column h

lemma wellKnown?_below (hw : wellKnown? column = none)
    (h : path = column ∨ ∃ rest, path = column ++ "." ++ rest) : wellKnown? path = none := by
  rcases h with rfl | ⟨rest, rfl⟩
  · exact hw
  · refine wellKnown?_eq_none fun hengine => dot_not_mem_of_engine hengine ?_
    simp [String.toList_append]

lemma lookUp_eq_ok_of_checked (ht : s.trusting = false) (hw : wellKnown? column = none) :
    s.lookUp column m = (.ok path, m') ↔
      ∃ t, s.fields m = (.ok t, m') ∧ t.Smallest column path := by
  rw [lookUp_of_checked ht hw]
  cases s.fields m with
  | mk fields left =>
    cases fields with
    | error e => simp [Except.bind]
    | ok t =>
      have hpath := (FieldTable.finds_pathIn s t column).path path
      simp only [Except.bind, Prod.mk.injEq, hpath, Except.ok.injEq]
      constructor
      · rintro ⟨h, rfl⟩
        exact ⟨t, ⟨rfl, rfl⟩, h⟩
      · rintro ⟨_, ⟨rfl, rfl⟩, h⟩
        exact ⟨h, rfl⟩

lemma lookUp_settled (h : s.lookUp column m = (.ok path, m')) :
    s.lookUp path m = (.ok path, m') ∧ s.lookUp path m' = (.ok path, m') := by
  cases hw : wellKnown? column with
  | some known =>
    rw [lookUp_of_wellKnown hw] at h
    cases h
    have hself := wellKnown?_self hw
    exact ⟨lookUp_of_wellKnown hself, lookUp_of_wellKnown hself⟩
  | none =>
    cases ht : s.trusting with
    | true =>
      have hself := lookUp_of_trusted (m := m) ht hw
      rw [hself] at h
      cases h
      exact ⟨hself, hself⟩
    | false =>
      obtain ⟨t, hf, hsmallest⟩ := (lookUp_eq_ok_of_checked ht hw).mp h
      obtain ⟨-, -, hbelow, -⟩ := hsmallest.1
      have hw' := wellKnown?_below hw hbelow
      have hself := hsmallest.1.smallest_self
      have hkept : s.fields m' = (.ok t, m') := by
        have hfound := get?_fields (congrArg Prod.fst hf)
        rw [hf] at hfound
        exact fields_of_cached hfound
      exact ⟨(lookUp_eq_ok_of_checked ht hw').mpr ⟨t, hf, hself⟩,
        (lookUp_eq_ok_of_checked ht hw').mpr ⟨t, hkept, hself⟩⟩

end Source

namespace Context

theorem settles (x : Context) (hx : x.overrides = .empty) {field path : String} {m : Memory}
    (h : x.run (Compile.lookUp field) = (.ok path, m)) :
    x.run (Compile.lookUp path) = (.ok path, m) ∧
      { x with memory := m }.run (Compile.lookUp path) = (.ok path, m) := by
  have hnone (column : String) : x.overrides.get? column = none := by
    rw [hx]
    rfl
  have hrun (n : Memory) :
      { x with memory := n }.run (Compile.lookUp path) = x.source.lookUp path n :=
    run_lookUp (hnone path)
  rw [run_lookUp (hnone field)] at h
  obtain ⟨hfirst, hagain⟩ := Source.lookUp_settled h
  exact ⟨(hrun x.memory).trans hfirst, (hrun m).trans hagain⟩

def ids : Context where
  source := {
    index := "people"
    provider := .ofTable "gone" (.ofList [("people",
      .ofPairs [("user", "object"), ("user.id", "text"), ("user.id._id", "keyword")])]) }

theorem settles_ids :
    ids.overrides = .empty ∧ ∃ m, ids.run (Compile.lookUp "user.id") = (.ok "user.id._id", m) ∧
      ids.run (Compile.lookUp "user.id._id") = (.ok "user.id._id", m) ∧
      { ids with memory := m }.run (Compile.lookUp "user.id._id") = (.ok "user.id._id", m) := by
  have hfirst : ids.run (Compile.lookUp "user.id") =
      (.ok "user.id._id", (ids.run (Compile.lookUp "user.id")).2) := rfl
  exact ⟨rfl, _, hfirst, settles ids rfl hfirst⟩

end Context

end SearchCompiler
