import Mathlib.Tactic.MkIffOfInductiveProp
import RangeTest.Proofs.FirstFailure
import RangeTest.Proofs.Survey.Identity
import RangeTest.Proofs.Survey.Keyed
import RangeTest.Proofs.Survey.Rows

namespace RangeTest

/-- The columns with the numbers of a node, by place and name, from left to right. -/
def SurveyRow.numericColumns : List (Nat × String) :=
  [(2, "height"), (4, "temperature"), (5, "x"), (6, "y"), (7, "z")]

/-- The number in a field that may have blanks around it. -/
def SurveyRow.number? (row : SurveyRow) (index : Nat) : Option Float :=
  FloatText.read? (Text.trim (row.field index))

def SurveyRow.Numeric (row : SurveyRow) (column : Nat × String) : Prop :=
  ∃ x, row.number? column.1 = some x

/-- How a row is refused for a column without a number. -/
def SurveyRow.NotNumeric (row : SurveyRow) (column : Nat × String) (error : SurveyError) : Prop :=
  ¬ row.Numeric column ∧
    error = .row row.line (.notANumber column.2 (String.ofList (row.field column.1)))

/-- What the fields of a row say about a node. -/
@[mk_iff]
structure SurveyRow.Describes (row : SurveyRow) (info : NodeInfo) : Prop where
  id : row.trimmed 1 = info.id
  height : row.number? 2 = some info.height
  antenna : row.trimmed 3 = info.antenna
  temperature : row.number? 4 = some info.temperature
  x : row.number? 5 = some info.position.x
  y : row.number? 6 = some info.position.y
  z : row.number? 7 = some info.position.z

/-- Rows that can be entered one after the other: their numbers are numbers, and no two have the
same address. -/
structure NodeTable.Clean (rows : List SurveyRow) : Prop where
  numeric : ∀ row ∈ rows, ∀ column ∈ SurveyRow.numericColumns, row.Numeric column
  addresses : (rows.map (·.trimmed 0)).Nodup

/-- The rows of a table of nodes that is accepted. -/
structure NodeTable.Valid (rows : List SurveyRow) : Prop extends Clean rows where
  width : ∀ row ∈ rows, row.fields.length = 8
  ids : (rows.map (·.trimmed 1)).Nodup

/-- Why a table of nodes is refused. A row that is not eight fields wide comes first, wherever it
stands. Then the rows are taken in order, up to one with a bad number or with an address that has
been seen. Ids that are used twice come last; any two such rows may be named. -/
inductive NodeTable.Refuses : List SurveyRow → SurveyError → Prop
  | width {before after : List SurveyRow} {row : SurveyRow} :
      (∀ earlier ∈ before, earlier.fields.length = 8) → row.fields.length ≠ 8 →
      Refuses (before ++ row :: after) (.row row.line (.fieldCount 8 row.fields.length))
  | number {before after : List SurveyRow} {row : SurveyRow} {error : SurveyError} :
      (∀ any ∈ before ++ row :: after, any.fields.length = 8) → Clean before →
      FirstFailure row.Numeric row.NotNumeric SurveyRow.numericColumns error →
      Refuses (before ++ row :: after) error
  | address {before after : List SurveyRow} {row : SurveyRow} :
      (∀ any ∈ before ++ row :: after, any.fields.length = 8) → Clean before →
      (∀ column ∈ SurveyRow.numericColumns, row.Numeric column) →
      row.trimmed 0 ∈ before.map (·.trimmed 0) →
      Refuses (before ++ row :: after) (.duplicateAddress (row.trimmed 0))
  | id {rows : List SurveyRow} {row other : SurveyRow} :
      (∀ any ∈ rows, any.fields.length = 8) → Clean rows → [row, other].Sublist rows →
      row.trimmed 1 = other.trimmed 1 →
      Refuses rows (.duplicateId (row.trimmed 1) (row.trimmed 0) (other.trimmed 0))

section
variable {row : SurveyRow} {index : Nat} {name : String} {info : NodeInfo} {error : SurveyError}

theorem SurveyRow.number_eq_ok_iff {x : Float} :
    row.number index name = .ok x ↔ row.number? index = some x := by
  rw [number, number?]
  cases FloatText.read? (Text.trim (row.field index)) with
  | none => exact iff_of_false nofun nofun
  | some y =>
    constructor
    · exact fun same => congrArg some (Except.ok.inj same)
    · exact fun same => congrArg Except.ok (Option.some.inj same)

theorem SurveyRow.number_eq_error_iff :
    row.number index name = .error error ↔ row.NotNumeric (index, name) error := by
  rw [number, NotNumeric, Numeric, number?]
  cases FloatText.read? (Text.trim (row.field index)) with
  | none =>
    constructor
    · rintro ⟨⟩
      exact ⟨nofun, rfl⟩
    · rintro ⟨-, rfl⟩
      rfl
  | some y => exact iff_of_false nofun fun both => both.1 ⟨y, rfl⟩

theorem SurveyRow.nodeInfo_eq_ok_iff : row.nodeInfo = .ok info ↔ row.Describes info := by
  simp only [nodeInfo, Except.bind_eq_ok_iff, number_eq_ok_iff]
  constructor
  · rintro ⟨height, atHeight, temperature, atTemperature, x, atX, y, atY, z, atZ, ⟨⟩⟩
    exact ⟨rfl, atHeight, rfl, atTemperature, atX, atY, atZ⟩
  · rintro ⟨id, height, antenna, temperature, x, y, z⟩
    refine ⟨_, height, _, temperature, _, x, _, y, _, z, ?_⟩
    rw [id, antenna]
    rfl

theorem SurveyRow.nodeInfo_eq_error_iff :
    row.nodeInfo = .error error ↔ FirstFailure row.Numeric row.NotNumeric numericColumns error := by
  have last (value : NodeInfo) : ¬ (pure value : Except SurveyError NodeInfo) = .error error :=
    nofun
  simp only [nodeInfo, Except.bind_eq_error_iff, number_eq_ok_iff, number_eq_error_iff,
    numericColumns, FirstFailure.cons_iff, FirstFailure.not_nil, exists_and_right, last, Numeric,
    and_false, exists_false]

/-- A row describes a node if and only if its numbers are numbers. -/
theorem SurveyRow.exists_describes_iff :
    (∃ info, row.Describes info) ↔ ∀ column ∈ numericColumns, row.Numeric column := by
  simp only [numericColumns, List.forall_mem_cons, Numeric]
  constructor
  · rintro ⟨info, described⟩
    exact ⟨⟨_, described.height⟩, ⟨_, described.temperature⟩, ⟨_, described.x⟩, ⟨_, described.y⟩,
      ⟨_, described.z⟩, List.forall_mem_nil _⟩
  · rintro ⟨⟨height, atHeight⟩, ⟨temperature, atTemperature⟩, ⟨x, atX⟩, ⟨y, atY⟩, ⟨z, atZ⟩, -⟩
    exact ⟨⟨row.trimmed 1, height, row.trimmed 3, temperature, x, y, z⟩,
      rfl, atHeight, rfl, atTemperature, atX, atY, atZ⟩

end

/-- A node is entered under its address. -/
def NodeTable.telling : Telling SurveyRow String NodeInfo SurveyError where
  key := (·.trimmed 0)
  tell := SurveyRow.nodeInfo
  taken := .duplicateAddress

/-- How it ends to read a table of nodes. -/
inductive NodeTable.Outcome (rows : List SurveyRow) : Except SurveyError NodeTable → Prop
  | read {t : NodeTable} : Valid rows → telling.Fills (·.entries) rows (.ok t) →
      Outcome rows (.ok t)
  | refused {error : SurveyError} : Refuses rows error → Outcome rows (.error error)

section
variable {rows others : List SurveyRow} {t : NodeTable} {error : SurveyError} {address : String}
  {info : NodeInfo}

theorem NodeTable.sound_iff_clean : telling.Sound rows ↔ Clean rows := by
  have told (row : SurveyRow) : (∃ info, telling.tell row = .ok info) ↔
      ∀ column ∈ SurveyRow.numericColumns, row.Numeric column := by
    rw [← SurveyRow.exists_describes_iff]
    exact exists_congr fun _ => SurveyRow.nodeInfo_eq_ok_iff
  constructor
  · exact fun sound => ⟨fun row member => (told row).1 (sound.told row member), sound.distinct⟩
  · exact fun clean => ⟨fun row member => (told row).2 (clean.numeric row member), clean.addresses⟩

theorem NodeTable.fills_addRow (rows : List SurveyRow) :
    telling.Fills (·.entries) rows (rows.foldlM addRow empty) := by
  refine Telling.fills_foldlM rfl ?_ ?_ ?_ rows
  · intro t row error refused
    rw [addRow]
    rw [show row.nodeInfo = .error error from refused]
    rfl
  · intro t row info told known
    have present : (t.get? (row.trimmed 0)).isSome := by
      rw [Option.isSome_iff_ne_none]
      exact fun absent => lookup_eq_none_iff.1 absent known
    rw [addRow, show row.nodeInfo = .ok info from told]
    change t.insert _ _ = _
    rw [insert, if_pos present]
    rfl
  · intro t row info told fresh
    have absent : t.get? (row.trimmed 0) = none := lookup_eq_none_iff.2 fresh
    rw [addRow, show row.nodeInfo = .ok info from told]
    exact ⟨_, insert_of_absent absent, rfl⟩

/-- Address and id of an entry are those of its row. -/
theorem NodeTable.names_eq {made : List (String × NodeInfo)}
    (each : List.Forall₂ telling.Enters rows made) :
    made.map (fun entry => (entry.1, entry.2.id)) =
      rows.map (fun row => (row.trimmed 0, row.trimmed 1)) := by
  induction each with
  | nil => rfl
  | cons first _ ih =>
    rw [List.map_cons, List.map_cons, ih, ← first.1, (SurveyRow.nodeInfo_eq_ok_iff.1 first.2).id]
    rfl

theorem NodeTable.sharedId?_eq_some {entries : List (String × NodeInfo)}
    (shared : sharedId? entries = some error) :
    ∃ entry other, [entry, other].Sublist entries ∧ entry.2.id = other.2.id ∧
      error = .duplicateId entry.2.id entry.1 other.1 := by
  induction entries with
  | nil => cases shared
  | cons entry rest ih =>
    rw [sharedId?] at shared
    cases found : rest.find? (·.2.id == entry.2.id) with
    | none =>
      rw [found] at shared
      obtain ⟨first, second, within, same, rfl⟩ := ih shared
      exact ⟨first, second, within.cons entry, same, rfl⟩
    | some other =>
      rw [found] at shared
      cases shared
      have same : other.2.id = entry.2.id := by simpa using List.find?_some found
      have later : [other].Sublist rest :=
        List.singleton_sublist.2 (List.mem_of_find?_eq_some found)
      exact ⟨entry, other, later.cons_cons entry, same.symm, rfl⟩

/-- Two entries that share an id were made of two rows that do, in the same order. -/
theorem NodeTable.exists_of_sharedId? {made : List (String × NodeInfo)}
    (each : List.Forall₂ telling.Enters rows made) (shared : sharedId? made = some error) :
    ∃ row other, [row, other].Sublist rows ∧ row.trimmed 1 = other.trimmed 1 ∧
      error = .duplicateId (row.trimmed 1) (row.trimmed 0) (other.trimmed 0) := by
  obtain ⟨entry, entry', within, same, rfl⟩ := sharedId?_eq_some shared
  have named := within.map fun entry => (entry.1, entry.2.id)
  rw [names_eq each] at named
  obtain ⟨pair, inside, pairs⟩ := List.sublist_map_iff.1 named
  obtain ⟨row, pair, rfl, atRow, pairs⟩ := List.map_eq_cons_iff.1 pairs.symm
  obtain ⟨other, pair, rfl, atOther, pairs⟩ := List.map_eq_cons_iff.1 pairs
  obtain rfl := List.map_eq_nil_iff.1 pairs
  obtain ⟨address, id⟩ := Prod.mk.inj atRow
  obtain ⟨address', id'⟩ := Prod.mk.inj atOther
  exact ⟨row, other, inside, id.trans (same.trans id'.symm), by rw [id, address, address']⟩

theorem NodeTable.ids_nodup_of_sharedId? {made : List (String × NodeInfo)}
    (each : List.Forall₂ telling.Enters rows made) (apart : sharedId? made = none) :
    (rows.map (·.trimmed 1)).Nodup := by
  have ids := congrArg (List.map (·.2)) (names_eq each)
  rw [List.map_map, List.map_map] at ids
  exact ids ▸ sharedId?_eq_none_iff.1 apart

theorem NodeTable.outcome_parse (content : String) :
    Outcome (SurveyRow.tagged tag content) (parse content) := by
  rw [parse]
  rcases SurveyRow.parse_cases tag content 8 with
    ⟨width, parsed⟩ | ⟨before, row, after, split, width, wrong, parsed⟩
  · rw [parsed]
    change Outcome _ (List.foldlM addRow empty _ >>= _)
    generalize SurveyRow.tagged tag content = rows at width
    have fills := fills_addRow rows
    generalize rows.foldlM addRow empty = reached at fills
    cases fills with
    | @filled _ t distinct each =>
      have clean := sound_iff_clean.1 ⟨telling.told each, distinct⟩
      change Outcome _ (pure t >>= _)
      rw [pure_bind]
      cases shared : sharedId? t.entries with
      | none =>
        have ids := ids_nodup_of_sharedId? each shared
        exact .read ⟨clean, width, ids⟩ (.filled distinct each)
      | some error =>
        obtain ⟨row, other, within, same, rfl⟩ := exists_of_sharedId? each shared
        exact .refused (.id width clean within same)
    | @refused before after row error sound silent =>
      have failed := SurveyRow.nodeInfo_eq_error_iff.1 silent
      exact .refused (.number width (sound_iff_clean.1 sound) failed)
    | @repeated before after row info sound told known =>
      have numeric := SurveyRow.exists_describes_iff.1 ⟨info, SurveyRow.nodeInfo_eq_ok_iff.1 told⟩
      exact .refused (.address width (sound_iff_clean.1 sound) numeric known)
  · rw [parsed, split]
    exact .refused (.width width wrong)

/-- A table that is refused is not valid. -/
theorem NodeTable.Refuses.not_valid (refuses : Refuses rows error) : ¬ Valid rows := by
  intro valid
  cases refuses with
  | @width before after row _ wrong => exact wrong (valid.width row (by simp))
  | @number before after row error _ _ failed =>
    have told := SurveyRow.exists_describes_iff.2 (valid.numeric row (by simp))
    obtain ⟨info, described⟩ := told
    cases (SurveyRow.nodeInfo_eq_ok_iff.2 described).symm.trans
      (SurveyRow.nodeInfo_eq_error_iff.2 failed)
  | @address before after row _ _ _ known =>
    have distinct := valid.addresses
    rw [List.map_append, List.map_cons] at distinct
    exact List.disjoint_of_nodup_append distinct known List.mem_cons_self
  | @id _ row other _ _ within same =>
    have distinct := valid.ids.sublist (within.map (·.trimmed 1))
    simp [same] at distinct

theorem NodeTable.Outcome.ok_iff {result : Except SurveyError NodeTable}
    (outcome : Outcome rows result) : (∃ t, result = .ok t) ↔ Valid rows := by
  cases outcome with
  | read valid _ => exact iff_of_true ⟨_, rfl⟩ valid
  | refused refuses => exact iff_of_false nofun refuses.not_valid

theorem SurveyRow.trimmed_congr {row other : SurveyRow} (same : row.fields = other.fields) :
    row.trimmed = other.trimmed := by
  funext index
  simp only [trimmed, field, same]

theorem SurveyRow.number?_congr {row other : SurveyRow} (same : row.fields = other.fields) :
    row.number? = other.number? := by
  funext index
  simp only [number?, field, same]

theorem SurveyRow.describes_congr {row other : SurveyRow} (same : row.fields = other.fields) :
    row.Describes info ↔ other.Describes info := by
  simp only [describes_iff, trimmed_congr same, number?_congr same]

theorem SurveyRow.trimmed_perm (perm : (rows.map (·.fields)).Perm (others.map (·.fields)))
    (index : Nat) : (rows.map (·.trimmed index)).Perm (others.map (·.trimmed index)) :=
  map_perm (fun _ _ same => congrFun (trimmed_congr same) index) perm

/-- Rows with the same fields are valid together, whatever their numbers. -/
theorem NodeTable.Valid.of_perm (valid : Valid rows)
    (perm : (rows.map (·.fields)).Perm (others.map (·.fields))) : Valid others where
  width := by
    intro other member
    obtain ⟨row, inside, same⟩ := SurveyRow.exists_of_perm perm.symm member
    exact same ▸ valid.width row inside
  numeric := by
    intro other member column listed
    obtain ⟨row, inside, same⟩ := SurveyRow.exists_of_perm perm.symm member
    have numeric := valid.numeric row inside column listed
    rwa [SurveyRow.Numeric, SurveyRow.number?_congr same] at numeric
  addresses := (SurveyRow.trimmed_perm perm 0).nodup_iff.1 valid.addresses
  ids := (SurveyRow.trimmed_perm perm 1).nodup_iff.1 valid.ids

/-- Some row describes a node at an address. -/
def NodeTable.Tells (rows : List SurveyRow) (address : String) (info : NodeInfo) : Prop :=
  ∃ row ∈ rows, row.trimmed 0 = address ∧ row.Describes info

theorem NodeTable.Tells.of_perm (told : Tells rows address info)
    (perm : (rows.map (·.fields)).Perm (others.map (·.fields))) : Tells others address info := by
  obtain ⟨row, inside, rfl, described⟩ := told
  obtain ⟨other, member, same⟩ := SurveyRow.exists_of_perm perm inside
  exact ⟨other, member, congrFun (SurveyRow.trimmed_congr same) 0,
    (SurveyRow.describes_congr same).2 described⟩

theorem NodeTable.Outcome.get?_eq_some_iff (outcome : Outcome rows (.ok t)) :
    t.get? address = some info ↔ Tells rows address info := by
  cases outcome with
  | read _ fills =>
    refine fills.lookup_iff.trans (exists_congr fun row => and_congr_right fun _ => ?_)
    exact and_congr_right fun _ => SurveyRow.nodeInfo_eq_ok_iff

theorem NodeTable.Outcome.get?_eq_none_iff (outcome : Outcome rows (.ok t)) :
    t.get? address = none ↔ address ∉ rows.map (·.trimmed 0) := by
  cases outcome with
  | read _ fills => exact fills.lookup_none_iff

theorem NodeTable.Outcome.size_eq (outcome : Outcome rows (.ok t)) : t.size = rows.length := by
  cases outcome with
  | read _ fills => exact fills.length_eq

end

/-- Just the valid tables are read, and what is looked up in them is what their rows say. Otherwise
the error is that of the first fault, where the width of rows counts before all else and ids that
are shared count last. The order of the lines does not matter where a table is read. -/
theorem NodeTable.nodes_decided (content : String) : ∃ rows, SurveyRow.Lists tag content rows ∧
    ((∃ t, parse content = .ok t) ↔ Valid rows) ∧
    (∀ t, parse content = .ok t →
      (∀ address info, t.get? address = some info ↔ Tells rows address info) ∧
      (∀ address, t.get? address = none ↔ address ∉ rows.map (·.trimmed 0)) ∧
      t.size = rows.length) ∧
    (∀ error, parse content = .error error → Refuses rows error) ∧
    ∀ other, (SurveyRow.taggedLines tag content).Perm (SurveyRow.taggedLines tag other) →
      ((∃ t, parse content = .ok t) ↔ ∃ t, parse other = .ok t) ∧
        ∀ t t', parse content = .ok t → parse other = .ok t' →
          ∀ address, t.get? address = t'.get? address := by
  have outcome := outcome_parse content
  refine ⟨SurveyRow.tagged tag content, SurveyRow.lists_tagged tag content, outcome.ok_iff,
    fun t read => ?_, fun error refused => ?_, fun other perm => ?_⟩
  · rw [read] at outcome
    exact ⟨fun _ _ => outcome.get?_eq_some_iff, fun _ => outcome.get?_eq_none_iff, outcome.size_eq⟩
  · rw [refused] at outcome
    cases outcome with
    | refused refuses => exact refuses
  · have outcome' := outcome_parse other
    have fields := SurveyRow.fields_perm perm
    refine ⟨?_, fun t t' read read' address => Option.ext fun info => ?_⟩
    · rw [outcome.ok_iff, outcome'.ok_iff]
      exact ⟨fun valid => valid.of_perm fields, fun valid => valid.of_perm fields.symm⟩
    · rw [read] at outcome
      rw [read'] at outcome'
      rw [outcome.get?_eq_some_iff, outcome'.get?_eq_some_iff]
      exact ⟨fun told => told.of_perm fields, fun told => told.of_perm fields.symm⟩

/-- Two nodes may be described in either order. -/
theorem NodeTable.nodes_decided_reordered :
    let content := "node-info: aa, N1, 1500, , 21, 0, 0, 0\n\nnode-info: bb, N2, 12e2, , 0, 1, 1, 1"
    let other := "node-info: bb, N2, 12e2, , 0, 1, 1, 1\nnode-info: aa, N1, 1500, , 21, 0, 0, 0 "
    ∃ t t', parse content = .ok t ∧ parse other = .ok t' ∧ t.size = 2 ∧
      ∀ address, t.get? address = t'.get? address := by
  intro content other
  obtain ⟨_, _, _, _, _, reordered⟩ := nodes_decided content
  have accepted : (parse content).toOption.map (·.size) = some 2 := by decide +kernel
  have perm : (SurveyRow.taggedLines tag content).Perm (SurveyRow.taggedLines tag other) := by
    decide +kernel
  obtain ⟨t, told, two⟩ := Option.map_eq_some_iff.1 accepted
  have read := Except.toOption_eq_some_iff.1 told
  obtain ⟨alike, same⟩ := reordered other perm
  obtain ⟨t', read'⟩ := alike.1 ⟨t, read⟩
  exact ⟨t, t', read, read', two, same t t' read read'⟩

/-- A row that is too short comes before a bad number in a row above it. -/
example : NodeTable.parse "node-info: aa, N1, high, dipole, 21, 0, 0, 0\nnode-info: bb" =
    .error (.row 2 (.fieldCount 8 1)) := by
  rfl

end RangeTest
