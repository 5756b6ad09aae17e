import Mathlib.Data.List.Forall2
import Mathlib.Data.List.Infix
import Mathlib.Tactic.Common
import SearchCompiler.Query.Wildcard

/-! Which texts a pattern matches. Both kinds of patterns are read as places, one after the other,
and the wildcard pattern of a `like` pattern has the same places, between two for any text if the
`like` pattern has none. -/

namespace SearchCompiler

inductive Place where
  | anyText
  | anyChar
  | char (c : Char)

namespace Place

def Takes : Place → List Char → Prop
  | anyText, _ => True
  | anyChar, cs => ∃ c, cs = [c]
  | char c, cs => cs = [c]

def Match (ps : List Place) (cs : List Char) : Prop :=
  ∃ pieces, List.Forall₂ Takes ps pieces ∧ pieces.flatten = cs

lemma match_nil {cs : List Char} : Match [] cs ↔ cs = [] := by
  constructor
  · rintro ⟨pieces, hpieces, rfl⟩
    obtain rfl := List.forall₂_nil_left_iff.mp hpieces
    rfl
  · rintro rfl
    exact ⟨[], .nil, rfl⟩

lemma match_append {ps qs : List Place} {cs : List Char} :
    Match (ps ++ qs) cs ↔ ∃ front back, cs = front ++ back ∧ Match ps front ∧ Match qs back := by
  constructor
  · rintro ⟨pieces, hpieces, rfl⟩
    have hfront := List.forall₂_take_append pieces ps qs hpieces.flip
    have hback := List.forall₂_drop_append pieces ps qs hpieces.flip
    refine ⟨(pieces.take ps.length).flatten, (pieces.drop ps.length).flatten, ?_,
      ⟨_, hfront.flip, rfl⟩, ⟨_, hback.flip, rfl⟩⟩
    rw [← List.flatten_append, List.take_append_drop]
  · rintro ⟨front, back, rfl, ⟨pieces, hpieces, rfl⟩, ⟨pieces', hpieces', rfl⟩⟩
    exact ⟨pieces ++ pieces', List.rel_append hpieces hpieces', List.flatten_append⟩

lemma match_singleton {p : Place} {cs : List Char} : Match [p] cs ↔ p.Takes cs := by
  constructor
  · rintro ⟨pieces, hpieces, rfl⟩
    obtain ⟨piece, rest, hpiece, hrest, rfl⟩ := List.forall₂_cons_left_iff.mp hpieces
    obtain rfl := List.forall₂_nil_left_iff.mp hrest
    simpa using hpiece
  · intro h
    exact ⟨[cs], .cons h .nil, List.flatten_singleton⟩

lemma match_cons {p : Place} {ps : List Place} {cs : List Char} :
    Match (p :: ps) cs ↔ ∃ front back, cs = front ++ back ∧ p.Takes front ∧ Match ps back := by
  rw [← List.singleton_append, match_append]
  simp only [match_singleton]

lemma match_between {ps : List Place} {cs : List Char} :
    Match (anyText :: ps ++ [anyText]) cs ↔
      ∃ front piece back, cs = front ++ piece ++ back ∧ Match ps piece := by
  rw [match_append]
  constructor
  · rintro ⟨_, back, rfl, hfront, -⟩
    obtain ⟨front, piece, rfl, -, hpiece⟩ := match_cons.mp hfront
    exact ⟨front, piece, back, rfl, hpiece⟩
  · rintro ⟨front, piece, back, rfl, hpiece⟩
    have hfront : Match (anyText :: ps) (front ++ piece) :=
      match_cons.mpr ⟨front, piece, rfl, trivial, hpiece⟩
    exact ⟨front ++ piece, back, rfl, hfront, match_singleton.mpr trivial⟩

def matched : List Place → List Char → Bool
  | [], cs => cs.isEmpty
  | anyText :: ps, cs => cs.tails.any (matched ps)
  | anyChar :: _, [] => false
  | anyChar :: ps, _ :: cs => matched ps cs
  | char _ :: _, [] => false
  | char c :: ps, d :: cs => d == c && matched ps cs

lemma matched_iff {ps : List Place} {cs : List Char} : matched ps cs = true ↔ Match ps cs := by
  induction ps generalizing cs with
  | nil => rw [matched, match_nil, List.isEmpty_iff]
  | cons p ps ih =>
    rw [match_cons]
    cases p with
    | anyText =>
      simp only [matched, List.any_eq_true, List.mem_tails, ih, Takes, true_and]
      constructor
      · rintro ⟨back, ⟨front, rfl⟩, hback⟩
        exact ⟨front, back, rfl, hback⟩
      · rintro ⟨front, back, rfl, hback⟩
        exact ⟨back, ⟨front, rfl⟩, hback⟩
    | anyChar => cases cs <;> simp [matched, Takes, List.cons_eq_append_iff, ih]
    | char c =>
      cases cs with
      | nil => simp [matched, Takes]
      | cons d cs =>
        rw [matched, Bool.and_eq_true, beq_iff_eq, ih]
        constructor
        · rintro ⟨rfl, hback⟩
          exact ⟨[d], cs, rfl, rfl, hback⟩
        · rintro ⟨_, back, hcs, rfl, hback⟩
          obtain ⟨rfl, rfl⟩ := List.cons.inj hcs
          exact ⟨rfl, hback⟩

instance (ps : List Place) (cs : List Char) : Decidable (Match ps cs) :=
  decidable_of_iff _ matched_iff

end Place

namespace Like

def place (c : Char) : Place :=
  if c = '%' then .anyText else if c = '_' then .anyChar else .char c

def Matches (pattern text : String) : Prop :=
  Place.Match (pattern.toList.map place) text.toList

end Like

namespace Wildcard

def place (c : Char) : Place :=
  if c = '*' then .anyText else if c = '?' then .anyChar else .char c

def places : List Char → List Place
  | [] => []
  | [c] => [place c]
  | c :: d :: cs => if c = '\\' then .char d :: places cs else place c :: places (d :: cs)

def Matches (pattern text : String) : Prop :=
  Place.Match (places pattern.toList) text.toList

instance (pattern text : String) : Decidable (Matches pattern text) :=
  inferInstanceAs (Decidable (Place.Match _ _))

lemma places_cons {c : Char} (hc : c ≠ '\\') (cs : List Char) :
    places (c :: cs) = place c :: places cs := by
  cases cs with
  | nil => rfl
  | cons d cs => rw [places, if_neg hc]

lemma places_ofLikeChar (c : Char) (rest : List Char) :
    places (ofLikeChar c ++ rest) = Like.place c :: places rest := by
  rw [ofLikeChar, Like.place]
  -- each of the four kinds of characters gives a complete piece of the wildcard pattern
  split
  · exact places_cons (by decide) rest
  split
  · exact places_cons (by decide) rest
  split
  · rfl
  · rename_i hspecial
    push Not at hspecial
    obtain ⟨hstar, hmark, hslash⟩ := hspecial
    rw [List.singleton_append, places_cons hslash, place, if_neg hstar, if_neg hmark]

lemma places_flatMap (cs rest : List Char) :
    places (cs.flatMap ofLikeChar ++ rest) = cs.map Like.place ++ places rest := by
  induction cs with
  | nil => rfl
  | cons c cs ih =>
    rw [List.flatMap_cons, List.append_assoc, places_ofLikeChar, ih, List.map_cons,
      List.cons_append]

lemma places_ofLike (cs : List Char) :
    places (ofLike cs) =
      if '%' ∈ cs then cs.map Like.place
      else .anyText :: cs.map Like.place ++ [.anyText] := by
  have hplaces := places_flatMap cs []
  rw [List.append_nil, places, List.append_nil] at hplaces
  rw [ofLike]
  split
  · exact hplaces
  · rw [List.cons_append, places_cons (by decide), places_flatMap]
    rfl

/-- A wildcard pattern matches what its `like` pattern does, and what has such a text inside it if
that pattern has no place for any text. -/
theorem matches_ofLikeText (pattern text : String) :
    Matches (ofLikeText pattern) text ↔
      if '%' ∈ pattern.toList then Like.Matches pattern text
      else ∃ front piece back, text = front ++ piece ++ back ∧ Like.Matches pattern piece := by
  rw [Matches, ofLikeText, String.toList_ofList, places_ofLike]
  split
  · rfl
  · rw [Place.match_between]
    constructor
    · rintro ⟨front, piece, back, htext, hpiece⟩
      refine ⟨.ofList front, .ofList piece, .ofList back, ?_, ?_⟩
      · rw [← String.toList_inj]
        simp [htext]
      · rwa [Like.Matches, String.toList_ofList]
    · rintro ⟨front, piece, back, rfl, hpiece⟩
      exact ⟨front.toList, piece.toList, back.toList, by simp, hpiece⟩

example : Matches (ofLikeText "%*\\") "2*\\" ∧ ¬ Matches (ofLikeText "%*\\") "22\\" := by decide

end Wildcard

end SearchCompiler
