import Mathlib.Data.List.Forall2
import Mathlib.Data.List.Induction
import Mathlib.Data.List.Nodup
import RangeTest.Proofs.Act

namespace RangeTest

section
variable {entries : List (κ × ν)} {k : κ} {value : ν}

/-- Where every key occurs once, looking up a key finds what is entered under it. -/
theorem lookup_eq_some_iff [BEq κ] [LawfulBEq κ] (distinct : (entries.map (·.1)).Nodup) :
    (entries.find? (·.1 == k)).map (·.2) = some value ↔ (k, value) ∈ entries := by
  rw [Option.map_eq_some_iff]
  constructor
  · rintro ⟨entry, found, rfl⟩
    have here : entry.1 = k := by simpa using List.find?_some found
    exact here ▸ List.mem_of_find?_eq_some found
  · intro member
    have known : (entries.find? (·.1 == k)).isSome :=
      List.find?_isSome.2 ⟨(k, value), member, by simp⟩
    obtain ⟨entry, found⟩ := Option.isSome_iff_exists.1 known
    have here : entry.1 = k := by simpa using List.find?_some found
    have one : entry = (k, value) :=
      List.inj_on_of_nodup_map distinct (List.mem_of_find?_eq_some found) member here
    exact ⟨entry, found, congrArg Prod.snd one⟩

theorem lookup_eq_none_iff [BEq κ] [LawfulBEq κ] :
    (entries.find? (·.1 == k)).map (·.2) = none ↔ k ∉ entries.map (·.1) := by
  rw [Option.map_eq_none_iff, List.find?_eq_none]
  simp only [beq_iff_eq, List.mem_map, not_exists, not_and]

end

/-- How the entries of a table are told item by item: under which key an item is entered, and what
it tells or why it tells nothing. -/
structure Telling (ι κ ν ε : Type) where
  key : ι → κ
  tell : ι → Except ε ν
  /-- The error of an item whose key is taken. -/
  taken : κ → ε

/-- Every item of a list tells something, and no two have the same key. -/
structure Telling.Sound (telling : Telling ι κ ν ε) (items : List ι) : Prop where
  told : ∀ item ∈ items, ∃ value, telling.tell item = .ok value
  distinct : (items.map telling.key).Nodup

/-- An item and the entry that is made of it. -/
def Telling.Enters (telling : Telling ι κ ν ε) (item : ι) (entry : κ × ν) : Prop :=
  telling.key item = entry.1 ∧ telling.tell item = .ok entry.2

/-- How it ends to fill a table item by item. Either there is an entry for every item, or it stops
at the first item that tells nothing or whose key is taken. -/
inductive Telling.Fills (telling : Telling ι κ ν ε) (entries : τ → List (κ × ν)) :
    List ι → Except ε τ → Prop
  | filled {items : List ι} {t : τ} : (items.map telling.key).Nodup →
      List.Forall₂ telling.Enters items (entries t) → Fills telling entries items (.ok t)
  | refused {before after : List ι} {item : ι} {error : ε} : telling.Sound before →
      telling.tell item = .error error →
      Fills telling entries (before ++ item :: after) (.error error)
  | repeated {before after : List ι} {item : ι} {value : ν} : telling.Sound before →
      telling.tell item = .ok value → telling.key item ∈ before.map telling.key →
      Fills telling entries (before ++ item :: after) (.error (telling.taken (telling.key item)))

section
variable {telling : Telling ι κ ν ε} {entries : τ → List (κ × ν)} {items : List ι}
  {result : Except ε τ} {t : τ}

theorem Telling.keys_eq {made : List (κ × ν)} (each : List.Forall₂ telling.Enters items made) :
    made.map (·.1) = items.map telling.key := by
  induction each with
  | nil => rfl
  | cons first _ ih => rw [List.map_cons, List.map_cons, ih, first.1]

theorem Telling.told {made : List (κ × ν)} (each : List.Forall₂ telling.Enters items made) :
    ∀ item ∈ items, ∃ value, telling.tell item = .ok value := by
  intro item member
  obtain ⟨entry, _, entered⟩ := exists_of_forall₂ each item member
  exact ⟨entry.2, entered.2⟩

/-- A table is filled item by item if every single item is entered unless it tells nothing or its
key is taken. -/
theorem Telling.fills_foldlM {step : τ → ι → Except ε τ} (empty : entries t = [])
    (refused : ∀ t item error, telling.tell item = .error error → step t item = .error error)
    (repeated : ∀ t item value, telling.tell item = .ok value →
      telling.key item ∈ (entries t).map (·.1) →
        step t item = .error (telling.taken (telling.key item)))
    (added : ∀ t item value, telling.tell item = .ok value →
      telling.key item ∉ (entries t).map (·.1) →
        ∃ t', step t item = .ok t' ∧ entries t' = entries t ++ [(telling.key item, value)])
    (items : List ι) : telling.Fills entries items (items.foldlM step t) := by
  -- An item meets the table of all items before it, so that items are taken from the end.
  induction items using List.reverseRecOn with
  | nil => exact .filled List.nodup_nil (empty ▸ .nil)
  | append_singleton items item ih =>
    rw [List.foldlM_append]
    generalize items.foldlM step t = reached at ih
    cases ih with
    | @filled _ t distinct each =>
      change Fills _ _ _ ([item].foldlM step t)
      rw [List.foldlM_cons]
      cases told : telling.tell item with
      | error error =>
        rw [refused t item error told]
        exact .refused ⟨telling.told each, distinct⟩ told
      | ok value =>
        by_cases known : telling.key item ∈ (entries t).map (·.1)
        · rw [repeated t item value told known]
          exact .repeated ⟨telling.told each, distinct⟩ told (keys_eq each ▸ known)
        · obtain ⟨t', entered, grown⟩ := added t item value told known
          rw [entered]
          refine .filled ?_ ?_
          · rw [keys_eq each] at known
            rw [List.map_append, List.map_singleton]
            exact List.concat_eq_append ▸ distinct.concat known
          · rw [grown]
            exact List.rel_append each (.cons ⟨rfl, told⟩ .nil)
    | @refused before after stop error sound silent =>
      change Fills _ _ _ (.error error)
      rw [List.append_assoc]
      exact .refused sound silent
    | @repeated before after stop value sound told known =>
      change Fills _ _ _ (.error _)
      rw [List.append_assoc]
      exact .repeated sound told known

/-- A table is filled if and only if its items are sound. -/
theorem Telling.Fills.ok_iff (fills : telling.Fills entries items result) :
    (∃ t, result = .ok t) ↔ telling.Sound items := by
  cases fills with
  | filled distinct each => exact iff_of_true ⟨_, rfl⟩ ⟨telling.told each, distinct⟩
  | @refused before after item error _ silent =>
    refine iff_of_false nofun fun sound => ?_
    obtain ⟨value, told⟩ := sound.told item (by simp)
    cases silent.symm.trans told
  | @repeated before after item value _ _ known =>
    refine iff_of_false nofun fun sound => ?_
    have distinct := sound.distinct
    rw [List.map_append, List.map_cons] at distinct
    exact List.disjoint_of_nodup_append distinct known List.mem_cons_self

/-- What a filled table holds under a key is what the item with that key tells. -/
theorem Telling.Fills.lookup_iff [BEq κ] [LawfulBEq κ] (fills : telling.Fills entries items (.ok t))
    {k : κ} {value : ν} :
    ((entries t).find? (·.1 == k)).map (·.2) = some value ↔
      ∃ item ∈ items, telling.key item = k ∧ telling.tell item = .ok value := by
  cases fills with
  | filled distinct each =>
    have unique : ((entries t).map (·.1)).Nodup := keys_eq each ▸ distinct
    rw [lookup_eq_some_iff unique]
    constructor
    · intro member
      obtain ⟨item, inside, entered⟩ := exists_of_forall₂ each.flip (k, value) member
      exact ⟨item, inside, entered⟩
    · rintro ⟨item, inside, rfl, told⟩
      obtain ⟨entry, member, same, also⟩ := exists_of_forall₂ each item inside
      rw [same, Except.ok.inj (told.symm.trans also)]
      exact member

theorem Telling.Fills.lookup_none_iff [BEq κ] [LawfulBEq κ]
    (fills : telling.Fills entries items (.ok t)) {k : κ} :
    ((entries t).find? (·.1 == k)).map (·.2) = none ↔ k ∉ items.map telling.key := by
  cases fills with
  | filled _ each => rw [lookup_eq_none_iff, keys_eq each]

theorem Telling.Fills.length_eq (fills : telling.Fills entries items (.ok t)) :
    (entries t).length = items.length := by
  cases fills with
  | filled _ each => exact each.length_eq.symm

end

end RangeTest
