import SearchCompiler.Fragment.FullText
import SearchCompiler.Fragment.TermLevel
import SearchCompiler.Proofs.Dict

/-! The two forms of a query on one field: the bare value, and a body of the value beside options.
Two queries are written alike only if they ask the same, or if the value of one is the very body
that the other is written with. -/

namespace SearchCompiler.Fragment

def slot (valueKey : String) (value : Json) (options : Options) : Json :=
  if options.isEmpty then value else .object (withMember valueKey value options)

lemma onField_eq_body (outer field valueKey : String) (value : Json) (options : Options) :
    onField outer field valueKey value options =
      body outer [(field, slot valueKey value options)] := by
  rw [onField, slot]
  split <;> rfl

lemma body_single_inj {outer field field' : String} {value value' : Json} :
    body outer [(field, value)] = body outer [(field', value')] ↔
      field = field' ∧ value = value' := by
  simp [body, Json.single]

def IsBodyOf (valueKey : String) (value other : Json) (options : Options) : Prop :=
  options ≠ [] ∧ value = .object (withMember valueKey other options)

def Alike (valueKey : String) (value other : Json) (options others : Options) : Prop :=
  (value = other ∧ options = others) ∨ (options = [] ∧ IsBodyOf valueKey value other others) ∨
    (others = [] ∧ IsBodyOf valueKey other value options)

lemma slot_eq_slot_iff {valueKey : String} {value other : Json} {options others : Options}
    (h : valueKey ∉ options.map Prod.fst) (h' : valueKey ∉ others.map Prod.fst) :
    slot valueKey value options = slot valueKey other others ↔
      Alike valueKey value other options others := by
  cases options with
  | nil =>
    cases others with
    | nil => simp [slot, Alike, IsBodyOf]
    | cons o os => simp [slot, Alike, IsBodyOf]
  | cons o os =>
    cases others with
    | nil =>
      simp only [slot, Alike, IsBodyOf, List.isEmpty_cons, List.isEmpty_nil, Bool.false_eq_true,
        if_false, if_true, reduceCtorEq, and_false, false_and, ne_eq, not_false_eq_true, true_and,
        false_or]
      exact eq_comm
    | cons o' os' =>
      simp only [slot, Alike, List.isEmpty_cons, Bool.false_eq_true, if_false, reduceCtorEq,
        false_and, or_false, Json.object.injEq]
      exact Entries.insert_inj h h'

lemma not_mem_keys_keep {key : String} {allowed : List String} (h : key ∉ allowed)
    (options : Options) : key ∉ (keep allowed options).map Prod.fst := by
  intro hmem
  obtain ⟨o, ho, rfl⟩ := List.mem_map.mp hmem
  exact h (List.contains_iff_mem.mp (List.mem_filter.mp ho).2)

def ToldApart (valueKey : String) (allowed : List String)
    (query : String → Json → Options → Json) : Prop :=
  ∀ field field' value value' options options',
    query field value options = query field' value' options' ↔
      field = field' ∧ Alike valueKey value value' (keep allowed options) (keep allowed options')

lemma onField_toldApart (outer : String) {valueKey : String} {allowed : List String}
    (h : valueKey ∉ allowed) : ToldApart valueKey allowed
      fun field value options => onField outer field valueKey value (keep allowed options) := by
  intro field field' value value' options options'
  simp only [onField_eq_body, body_single_inj,
    slot_eq_slot_iff (not_mem_keys_keep h options) (not_mem_keys_keep h options')]

theorem leaves_toldApart :
    ToldApart "value" Allowed.term term ∧ ToldApart "value" Allowed.fuzzy fuzzy ∧
      ToldApart "query" Allowed.words words ∧ ToldApart "query" Allowed.phrase phrase ∧
      ToldApart "query" Allowed.phraseStart phraseStart := by
  refine ⟨?_, ?_, ?_, ?_, ?_⟩
  · exact onField_toldApart "term" (by decide)
  · exact onField_toldApart "fuzzy" (by decide)
  · exact onField_toldApart "match" (by decide)
  · exact onField_toldApart "match_phrase" (by decide)
  · exact onField_toldApart "match_phrase_prefix" (by decide)

def spelledOut : Json := .object [("boost", .int 2), ("value", .int 1)]

/-- Such a value is not told apart from a value with options. -/
theorem term_spelledOut :
    term "age" spelledOut [] = term "age" (.int 1) [("boost", .int 2)] ∧ spelledOut ≠ .int 1 ∧
      keep Allowed.term [] ≠ keep Allowed.term [("boost", .int 2)] := by
  refine ⟨rfl, ?_, ?_⟩
  · intro h
    cases h
  · intro h
    cases h

end SearchCompiler.Fragment
