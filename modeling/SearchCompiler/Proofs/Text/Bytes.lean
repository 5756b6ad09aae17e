import Mathlib.Data.List.Infix
import Mathlib.Data.String.Basic
import Mathlib.Tactic.Common
import SearchCompiler.Text

/-! Texts by their UTF-8 bytes: the order of texts is that of their bytes, a text starts with
another one when its bytes do, and a single byte tells where a dot stands. -/

namespace SearchCompiler.Text

def bytes (s : String) : List UInt8 := s.toUTF8.data.toList

lemma bytes_eq_flatMap (s : String) : bytes s = s.toList.flatMap String.utf8EncodeChar := by
  rw [bytes, String.toUTF8, ← String.utf8Encode_toList, List.utf8Encode,
    List.toList_data_toByteArray]

lemma bytes_append (s t : String) : bytes (s ++ t) = bytes s ++ bytes t := by
  simp only [bytes_eq_flatMap, String.toList_append, List.flatMap_append]

lemma bytes_inj {s t : String} : bytes s = bytes t ↔ s = t := by
  constructor
  · intro h
    exact String.toByteArray_inj.mp (ByteArray.ext (Array.toList_inj.mp h))
  · rintro rfl
    rfl

lemma utf8EncodeChar_append_lt {c d : Char} (h : c < d) (xs ys : List UInt8) :
    String.utf8EncodeChar c ++ xs < String.utf8EncodeChar d ++ ys := by
  have hval : c.val.toNat < d.val.toNat := h
  have hmax : d.val.toNat < 0x110000 := by
    rcases d.valid with hd | hd <;> omega
  -- the bytes behind the first one are digits to the base 64
  have hsecond (n : ℕ) : n / 4096 = n / 64 / 64 := by omega
  have hthird (n : ℕ) : n / 262144 = n / 64 / 64 / 64 := by omega
  simp only [String.utf8EncodeChar, hsecond, hthird]
  split_ifs <;>
    simp only [List.cons_append, List.nil_append, List.cons_lt_cons_iff, UInt8.lt_iff_toNat_lt,
      ← UInt8.toNat_inj, UInt8.toNat_ofNat'] <;>
    omega

lemma flatMap_utf8EncodeChar_lt {cs ds : List Char} (h : cs < ds) :
    cs.flatMap String.utf8EncodeChar < ds.flatMap String.utf8EncodeChar := by
  induction cs generalizing ds with
  | nil =>
    cases ds with
    | nil => exact absurd h (List.lt_irrefl [])
    | cons d ds =>
      obtain ⟨b, bs, hb⟩ := List.exists_cons_of_ne_nil (String.utf8EncodeChar_ne_nil (c := d))
      rw [List.flatMap_nil, List.flatMap_cons, hb]
      exact List.nil_lt_cons b _
  | cons c cs ih =>
    cases ds with
    | nil => exact absurd h (List.not_lt_nil _)
    | cons d ds =>
      rw [List.flatMap_cons, List.flatMap_cons]
      rcases List.cons_lt_cons_iff.mp h with hlt | ⟨rfl, hlt⟩
      · exact utf8EncodeChar_append_lt hlt _ _
      · exact List.append_left_lt (ih hlt)

lemma bytes_lt_bytes {s t : String} : bytes s < bytes t ↔ s < t := by
  have hmono {s t : String} (h : s < t) : bytes s < bytes t := by
    rw [bytes_eq_flatMap, bytes_eq_flatMap]
    exact flatMap_utf8EncodeChar_lt (String.lt_iff_toList_lt.mp h)
  refine ⟨fun h => ?_, hmono⟩
  rcases lt_trichotomy s t with hlt | rfl | hgt
  · exact hlt
  · exact absurd h (List.lt_irrefl _)
  · exact absurd h (List.lt_asymm (hmono hgt))

lemma startsWith_iff {s lead : String} : startsWith s lead = true ↔ ∃ rest, s = lead ++ rest := by
  rw [startsWith, List.isPrefixOf_iff_prefix]
  constructor
  · rintro ⟨rest, hrest⟩
    refine ⟨.ofList rest, ?_⟩
    rw [← String.toList_inj, String.toList_append, String.toList_ofList, hrest]
  · rintro ⟨rest, rfl⟩
    exact ⟨rest.toList, by rw [String.toList_append]⟩

lemma startsWith_iff_bytes {s lead : String} :
    startsWith s lead = true ↔ bytes lead <+: bytes s := by
  constructor
  · intro h
    obtain ⟨rest, rfl⟩ := startsWith_iff.mp h
    exact ⟨bytes rest, (bytes_append lead rest).symm⟩
  · rintro ⟨rest, hrest⟩
    have harray : lead.toList.utf8Encode ++ rest.toByteArray = s.toList.utf8Encode := by
      apply ByteArray.ext
      apply Array.toList_inj.mp
      rw [String.utf8Encode_toList, String.utf8Encode_toList, ByteArray.data_append,
        Array.toList_append, List.toList_data_toByteArray]
      exact hrest
    rw [startsWith, List.isPrefixOf_iff_prefix]
    exact List.isPrefix_of_utf8Encode_append_eq_utf8Encode rest.toByteArray harray

lemma getElem?_zero_utf8EncodeChar {c : Char} (bs : List UInt8) :
    (String.utf8EncodeChar c ++ bs)[0]? = some 46 ↔ c = '.' := by
  have hdot : c = '.' ↔ c.val.toNat = 46 := by
    rw [Char.ext_iff, ← UInt32.toNat_inj]
    rfl
  -- first bytes of longer codes are 192 and more
  rw [hdot, String.utf8EncodeChar]
  split_ifs <;>
    simp only [List.cons_append, List.getElem?_cons_zero, Option.some.injEq, ← UInt8.toNat_inj,
      UInt8.toNat_ofNat', UInt8.reduceToNat] <;>
    omega

lemma getElem?_bytes {s rest : String} :
    (bytes (s ++ rest))[(bytes s).length]? = some 46 ↔ startsWith rest "." = true := by
  rw [bytes_append, List.getElem?_append_right le_rfl, Nat.sub_self, bytes_eq_flatMap, startsWith]
  cases rest.toList with
  | nil => simp
  | cons c cs =>
    have hdot : ".".toList.isPrefixOf (c :: cs) = true ↔ '.' = c := by simp
    rw [List.flatMap_cons, getElem?_zero_utf8EncodeChar, hdot, eq_comm]

end SearchCompiler.Text
