namespace RangeTest

/-- Entries under distinct keys, kept in the order of the keys. -/
structure Directory (α : Type) where
  entries : List (String × α)
  ascending : entries.Pairwise fun a b => a.1 < b.1 := by simp

/-- Puts a value under a key; an entry under that key is replaced. -/
def Directory.putEntry (key : String) (value : α) : List (String × α) → List (String × α)
  | [] => [(key, value)]
  | entry :: rest =>
    if key < entry.1 then (key, value) :: entry :: rest
    else if entry.1 < key then entry :: putEntry key value rest
    else (entry.1, value) :: rest

theorem Directory.mem_putEntry {key : String} {value : α} {entries : List (String × α)}
    {entry : String × α} (member : entry ∈ putEntry key value entries) :
    entry.1 = key ∨ ∃ old ∈ entries, old.1 = entry.1 := by
  induction entries with
  | nil => simp_all [putEntry]
  | cons head rest ih =>
    unfold putEntry at member
    split at member
    · rcases List.mem_cons.1 member with rfl | old
      · exact Or.inl rfl
      · exact Or.inr ⟨entry, old, rfl⟩
    · split at member
      · rcases List.mem_cons.1 member with rfl | later
        · exact Or.inr ⟨entry, by simp, rfl⟩
        · rcases ih later with same | ⟨old, present, same⟩
          · exact Or.inl same
          · exact Or.inr ⟨old, by simp [present], same⟩
      · rcases List.mem_cons.1 member with rfl | old
        · exact Or.inr ⟨head, by simp, rfl⟩
        · exact Or.inr ⟨entry, by simp [old], rfl⟩

theorem Directory.putEntry_ascending (key : String) (value : α) {entries : List (String × α)}
    (ascending : entries.Pairwise fun a b => a.1 < b.1) :
    (putEntry key value entries).Pairwise fun a b => a.1 < b.1 := by
  induction entries with
  | nil => simp [putEntry]
  | cons head rest ih =>
    obtain ⟨least, tail⟩ := List.pairwise_cons.1 ascending
    unfold putEntry
    split
    · rename_i before
      refine List.pairwise_cons.2 ⟨fun entry member => ?_, ascending⟩
      rcases List.mem_cons.1 member with rfl | later
      · exact before
      · exact String.lt_trans before (least entry later)
    · split
      · rename_i after
        refine List.pairwise_cons.2 ⟨fun entry member => ?_, ih tail⟩
        rcases mem_putEntry member with same | ⟨old, present, same⟩
        · exact same ▸ after
        · exact same ▸ least old present
      · exact List.pairwise_cons.2 ⟨least, tail⟩

/-- A key is found where it was put, and the entries under other keys stay. -/
theorem Directory.find?_putEntry (key sought : String) (value : α) (entries : List (String × α)) :
    ((putEntry key value entries).find? (·.1 == sought)).map (·.2) =
      if sought = key then some value else (entries.find? (·.1 == sought)).map (·.2) := by
  induction entries with
  | nil =>
    by_cases same : sought = key
    · simp [putEntry, same]
    · have other : ¬ key = sought := fun h => same h.symm
      simp [putEntry, same, other]
  | cons head rest ih =>
    unfold putEntry
    split
    · by_cases same : sought = key
      · simp [same]
      · have other : ¬ key = sought := fun h => same h.symm
        simp [same, other]
    · split
      · rename_i after
        by_cases found : head.1 = sought
        · have same : sought ≠ key := fun same => String.lt_irrefl key (by simp_all)
          simp [found, same]
        · simp [found, ih]
      · rename_i notBefore notAfter
        have here : head.1 = key := String.le_antisymm notBefore notAfter
        by_cases same : sought = key
        · simp [here, same]
        · have other : ¬ key = sought := fun h => same h.symm
          simp [here, same, other]

def Directory.empty : Directory α where
  entries := []

def Directory.get? (d : Directory α) (key : String) : Option α :=
  (d.entries.find? (·.1 == key)).map (·.2)

/-- The directory with a value under a key, new or in place of the one before. -/
def Directory.put (d : Directory α) (key : String) (value : α) : Directory α where
  entries := putEntry key value d.entries
  ascending := putEntry_ascending key value d.ascending

/-- Changes every value and no key. -/
def Directory.map (f : α → β) (d : Directory α) : Directory β where
  entries := d.entries.map fun entry => (entry.1, f entry.2)
  ascending := by simpa [List.pairwise_map] using d.ascending

def Directory.keys (d : Directory α) : List String :=
  d.entries.map (·.1)

def Directory.values (d : Directory α) : List α :=
  d.entries.map (·.2)

theorem Directory.get?_put (d : Directory α) (key sought : String) (value : α) :
    (d.put key value).get? sought = if sought = key then some value else d.get? sought :=
  find?_putEntry key sought value d.entries

theorem Directory.get?_map (f : α → β) (d : Directory α) (sought : String) :
    (d.map f).get? sought = (d.get? sought).map f := by
  simp [get?, map, List.find?_map, Function.comp_def]

/-- Looking up finds the one entry that stands under a key. -/
theorem Directory.get?_eq_some_iff {d : Directory α} {key : String} {value : α} :
    d.get? key = some value ↔ (key, value) ∈ d.entries := by
  obtain ⟨entries, ascending⟩ := d
  simp only [get?, Option.map_eq_some_iff]
  constructor
  · rintro ⟨entry, found, rfl⟩
    have same : entry.1 = key := by simpa using List.find?_some found
    exact same ▸ List.mem_of_find?_eq_some found
  · intro member
    refine ⟨(key, value), ?_, rfl⟩
    induction entries with
    | nil => simp at member
    | cons head rest ih =>
      obtain ⟨least, tail⟩ := List.pairwise_cons.1 ascending
      rcases List.mem_cons.1 member with rfl | later
      · simp
      · have before : head.1 < key := least (key, value) later
        have other : head.1 ≠ key := fun same => String.lt_irrefl key (same ▸ before)
        simpa [other] using ih tail later

theorem Directory.mem_keys_iff {d : Directory α} {key : String} :
    key ∈ d.keys ↔ ∃ value, d.get? key = some value := by
  simp [keys, get?_eq_some_iff]

/-- A new entry takes the place of the old one under its key. -/
theorem Directory.mem_entries_put {d : Directory α} {key : String} {value : α}
    {entry : String × α} :
    entry ∈ (d.put key value).entries ↔
      entry = (key, value) ∨ entry.1 ≠ key ∧ entry ∈ d.entries := by
  obtain ⟨sought, found⟩ := entry
  rw [← get?_eq_some_iff, get?_put, ← get?_eq_some_iff]
  by_cases same : sought = key
  · simp [same, eq_comm]
  · simp [same]

theorem Directory.mem_keys_put {d : Directory α} {key sought : String} {value : α} :
    sought ∈ (d.put key value).keys ↔ sought = key ∨ sought ∈ d.keys := by
  simp only [mem_keys_iff, get?_put]
  by_cases same : sought = key <;> simp [same]

@[simp] theorem Directory.keys_map (f : α → β) (d : Directory α) : (d.map f).keys = d.keys := by
  simp [keys, map]

@[simp] theorem Directory.values_map (f : α → β) (d : Directory α) :
    (d.map f).values = d.values.map f := by
  simp [values, map]

theorem Directory.keys_nodup (d : Directory α) : d.keys.Nodup := by
  refine List.pairwise_map.2 (d.ascending.imp ?_)
  intro a b before same
  exact String.lt_irrefl b.1 (same ▸ before)

end RangeTest
