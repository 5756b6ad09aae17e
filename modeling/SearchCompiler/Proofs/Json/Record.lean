import Mathlib.Tactic.Common
import SearchCompiler.Proofs.Dict
import SearchCompiler.Record

/-! What was written as a record is read back, member by member. -/

namespace SearchCompiler

namespace Json

variable {α : Type}

lemma get?_foldl_members {ms : List (String × Option Json)} (h : (ms.map Prod.fst).Nodup)
    (name : String) (given : Options) :
    Entries.get? name (ms.foldl (fun given m => match m.2 with
      | some v => Entries.insert m.1 v given
      | none => given) given) = (Entries.get? name ms).join.or (Entries.get? name given) := by
  induction ms generalizing given with
  | nil => rfl
  | cons m ms ih =>
    obtain ⟨key, value⟩ := m
    obtain ⟨hkey, hms⟩ := List.nodup_cons.mp h
    rw [List.foldl_cons, ih hms, Entries.get?]
    by_cases hname : name = key
    · subst hname
      rw [if_pos rfl, Entries.get?_of_not_mem hkey]
      cases value with
      | some v => exact Entries.get?_insert_self name v given
      | none => rfl
    · rw [if_neg hname]
      cases value with
      | some v => simp only [Entries.get?_insert_of_ne v given hname]
      | none => rfl

lemma get?_ofMembers {ms : List (String × Option Json)} (h : (ms.map Prod.fst).Nodup)
    (name : String) : (ofMembers ms).get? name = (Entries.get? name ms).join := by
  have hfold := get?_foldl_members h name []
  rw [Entries.get?, Option.or_none] at hfold
  exact hfold

lemma record_eq_ofMembers (ms : Options) :
    record ms = ofMembers (ms.map fun m => (m.1, some m.2)) := by
  rw [record, ofMembers, List.foldl_map]
  rfl

def Restores (read : Json → Read α) (write : α → Json) : Prop :=
  ∀ a, read (write a) = .ok a

variable {read : Json → Read α} {write : α → Json}

lemma restores_text : Restores toText .string := fun _ => rfl

lemma restores_bool : Restores toBool .bool := fun _ => rfl

lemma restores_binary64 : Restores toBinary64 fun x => .number (.float x) := fun _ => rfl

lemma restores_options : Restores toOptions .object := fun _ => rfl

lemma restores_any : Restores toAny id := fun _ => rfl

lemma restores_pair : Restores toPair fun b => .array [b.1, b.2] := fun _ => rfl

lemma restores_count : Restores toCount ofUInt64 := by
  intro n
  have hn : (n.toNat : Int) < Numeral.wordLimit := Int.ofNat_lt.mpr n.toNat_lt
  rw [ofUInt64, int, toCount, if_pos ⟨Int.natCast_nonneg _, hn⟩, Int.toNat_natCast,
    UInt64.ofNat_toNat]

lemma Restores.list (h : Restores read write) :
    Restores (toList read) fun xs => .array (xs.map write) := by
  intro xs
  change (xs.map write).mapM read = .ok xs
  induction xs with
  | nil => rfl
  | cons x xs ih =>
    rw [List.map_cons, List.mapM_cons, h x, ih]
    rfl

lemma restores_strings : Restores (toList toText) ofStrings := restores_text.list

lemma restores_array : Restores (toList toAny) .array := by
  intro vs
  simpa using restores_any.list vs

lemma Restores.option (h : Restores read write) (hnull : ∀ a, write a ≠ .null) :
    Restores (toOption read) (ofOption write) := by
  intro o
  cases o with
  | none => rfl
  | some a =>
    have hread : toOption read (write a) = (read (write a)).map some := by
      cases hw : write a with
      | null => exact absurd hw (hnull a)
      | _ => rfl
    rw [ofOption, hread, h a]
    rfl

lemma restores_countOption : Restores (toOption toCount) (ofOption ofUInt64) :=
  restores_count.option fun _ hnull => by cases hnull

lemma restores_stringsOption : Restores (toOption (toList toText)) (ofOption ofStrings) :=
  restores_strings.option fun _ hnull => by cases hnull

lemma Restores.dict (h : Restores read write) : Restores (toDict read) (ofDict write) := by
  intro d
  have hentries : (d.entries.map fun e => (e.1, write e.2)).mapM
      (fun m => do return (m.1, ← read m.2)) = (.ok d.entries : Read _) := by
    induction d.entries with
    | nil => rfl
    | cons e es ih =>
      rw [List.map_cons, List.mapM_cons, ih, h e.2]
      rfl
  rw [ofDict, toDict, hentries]
  exact congrArg Except.ok d.ofList_entries

end Json

lemma Operator.restores : Json.Restores ofJson toJson := by
  intro op
  cases op with
  | bound b => cases b <;> rfl
  | _ => rfl

namespace Record

variable {α : Type} {r : Record} {ms : List (String × Option Json)} {name : String}

def Has (r : Record) (ms : List (String × Option Json)) : Prop :=
  ∀ name, Entries.get? name r.members = (Entries.get? name ms).join

lemma Has.required (h : r.Has ms) {v : Json} (hv : Entries.get? name ms = some (some v))
    {read : Json → Read α} {a : α} (ha : read v = .ok a) : r.required name read = .value a := by
  rw [Record.required, Options.required, h name, hv]
  exact congrArg (Reading.ofRead _) ha

lemma Has.withDefault (h : r.Has ms) {v : Json} (hv : Entries.get? name ms = some (some v))
    {read : Json → Read α} {a : α} (ha : read v = .ok a) (default : α) :
    r.withDefault name default read = .value a := by
  rw [Record.withDefault, Options.withDefault, h name, hv]
  exact congrArg (Reading.ofRead _) ha

lemma Has.optional (h : r.Has ms) {v : Json} (hv : Entries.get? name ms = some (some v))
    {read : Json → Read α} {o : Option α} (ho : Json.toOption read v = .ok o) :
    r.optional name read = .value o :=
  h.withDefault hv ho none

lemma Has.options (h : r.Has ms) {options : Options}
    (hv : Entries.get? name ms =
      some (if options.isEmpty then none else some (.object options))) :
    r.withDefault name [] Json.toOptions = .value options := by
  rw [Record.withDefault, Options.withDefault, h name, hv]
  cases options <;> rfl

end Record

namespace Json

variable {α : Type} {read : Json → Read α} {names : List String} {readMembers : Record → Reading α}
  {a : α}

lemma read_ofMembers {ms : List (String × Option Json)} (hms : (ms.map Prod.fst).Nodup)
    (h : ∀ members, Record.Has { members } ms → read (.object members) = .ok a) :
    read (ofMembers ms) = .ok a :=
  h _ (get?_ofMembers hms)

lemma read_record {ms : Options} (hms : (ms.map Prod.fst).Nodup)
    (h : ∀ members, Record.Has { members } (ms.map fun m => (m.1, some m.2)) →
      read (.object members) = .ok a) : read (record ms) = .ok a := by
  rw [record_eq_ofMembers]
  exact read_ofMembers (by rwa [List.map_map]) h

lemma toRecord_ofMembers {ms : List (String × Option Json)} (hms : (ms.map Prod.fst).Nodup)
    (h : ∀ r : Record, r.Has ms → readMembers r = .value a) :
    toRecord names readMembers (ofMembers ms) = .ok a := by
  refine read_ofMembers hms fun members hr => ?_
  rw [toRecord, h _ hr]
  rfl

lemma toRecord_record {ms : Options} (hms : (ms.map Prod.fst).Nodup)
    (h : ∀ r : Record, r.Has (ms.map fun m => (m.1, some m.2)) → readMembers r = .value a) :
    toRecord names readMembers (record ms) = .ok a := by
  refine read_record hms fun members hr => ?_
  rw [toRecord, h _ hr]
  rfl

end Json

end SearchCompiler
