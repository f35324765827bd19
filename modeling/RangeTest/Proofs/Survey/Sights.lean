import Mathlib.Data.Sym.Sym2
import RangeTest.Proofs.Survey.Extension
import RangeTest.Proofs.Survey.Keyed
import RangeTest.Proofs.Survey.Rows

namespace RangeTest

/-- The two nodes that a row names, in either order. -/
def SurveyRow.ids (row : SurveyRow) : Sym2 String :=
  s(row.trimmed 0, row.trimmed 1)

/-- What the fields of a row come to: how many there are, the nodes and the flag. -/
def SurveyRow.sight (row : SurveyRow) : Nat × Sym2 String × Option LineOfSight :=
  (row.fields.length, row.ids, LineOfSight.parse? (row.field 2))

/-- The rows of a table of lines of sight that is accepted. -/
structure SightTable.Valid (rows : List SurveyRow) : Prop where
  width : ∀ row ∈ rows, row.fields.length = 3
  flagged : ∀ row ∈ rows, ∃ flag, LineOfSight.parse? (row.field 2) = some flag
  distinct : (rows.map (·.ids)).Nodup

/-- Some row names two nodes, in either order, with a flag. -/
def SightTable.Tells (rows : List SurveyRow) (ids : Sym2 String) (flag : LineOfSight) : Prop :=
  ∃ row ∈ rows, row.ids = ids ∧ LineOfSight.parse? (row.field 2) = some flag

/-- A line of a table, and the same line or the one with its first two fields exchanged. -/
inductive SightTable.SameSight : List Char → List Char → Prop
  | same (line : List Char) : SameSight line line
  | exchanged {lead idA idB : List Char} {rest : List (List Char)} :
      Text.FirstMark tag.toList lead [] →
      (∀ field ∈ idA :: idB :: rest, ¬ Text.separator <:+: field) →
      SameSight (lead ++ tag.toList ++ Text.unfields (idA :: idB :: rest))
        (lead ++ tag.toList ++ Text.unfields (idB :: idA :: rest))

/-- The rows of two texts are the same up to their order and the order of the ids in each. -/
def SightTable.Rearranged (content other : String) : Prop :=
  ∃ lines, List.Forall₂ SameSight (SurveyRow.taggedLines tag content) lines ∧
    lines.Perm (SurveyRow.taggedLines tag other)

section
variable {idA idB idC idD : String}

theorem SightTable.mk_pair (idA idB : String) : s((pair idA idB).1, (pair idA idB).2) =
    s(idA, idB) := by
  rw [pair]
  split
  · rfl
  · exact Sym2.eq_swap

/-- A pair has one name for both orders of its ids, and no other pair has that name. -/
theorem SightTable.pair_eq_iff : pair idA idB = pair idC idD ↔ s(idA, idB) = s(idC, idD) := by
  constructor
  · intro same
    rw [← mk_pair idA idB, ← mk_pair idC idD, same]
  · intro same
    rcases Sym2.eq_iff.1 same with ⟨rfl, rfl⟩ | ⟨rfl, rfl⟩
    · rfl
    · exact pair_comm _ _

end

/-- A line of sight is entered under the one name of its pair of nodes. -/
def SightTable.telling : Telling SurveyRow (String × String) LineOfSight SurveyError where
  key row := pair (row.trimmed 0) (row.trimmed 1)
  tell row :=
    match LineOfSight.parse? (row.field 2) with
    | some flag => .ok flag
    | none => .error (.row row.line (.unknownFlag (String.ofList (row.field 2))))
  taken ids := .duplicateSight ids.1 ids.2

section
variable {rows others : List SurveyRow} {t : SightTable} {idA idB : String} {flag : LineOfSight}

theorem SightTable.tell_eq_ok_iff {row : SurveyRow} :
    telling.tell row = .ok flag ↔ LineOfSight.parse? (row.field 2) = some flag := by
  rw [telling]
  dsimp only
  cases LineOfSight.parse? (row.field 2) with
  | none => exact iff_of_false nofun nofun
  | some other =>
    constructor
    · exact fun same => congrArg some (Except.ok.inj same)
    · exact fun same => congrArg Except.ok (Option.some.inj same)

theorem SightTable.key_eq (row : SurveyRow) :
    telling.key row = pair (row.trimmed 0) (row.trimmed 1) := by
  rw [telling]

theorem SightTable.key_eq_pair_iff {row : SurveyRow} :
    telling.key row = pair idA idB ↔ row.ids = s(idA, idB) := by
  rw [key_eq, pair_eq_iff, SurveyRow.ids]

theorem SightTable.sound_iff :
    telling.Sound rows ↔
      (∀ row ∈ rows, ∃ flag, LineOfSight.parse? (row.field 2) = some flag) ∧
        (rows.map (·.ids)).Nodup := by
  have keys : (rows.map telling.key).Nodup ↔ (rows.map (·.ids)).Nodup := by
    simp only [List.Nodup, List.pairwise_map, key_eq, Ne, pair_eq_iff, SurveyRow.ids]
  constructor
  · rintro ⟨told, distinct⟩
    refine ⟨fun row member => ?_, keys.1 distinct⟩
    obtain ⟨flag, tells⟩ := told row member
    exact ⟨flag, tell_eq_ok_iff.1 tells⟩
  · rintro ⟨flagged, distinct⟩
    refine ⟨fun row member => ?_, keys.2 distinct⟩
    obtain ⟨flag, read⟩ := flagged row member
    exact ⟨flag, tell_eq_ok_iff.2 read⟩

theorem SightTable.get?_eq_none_iff :
    t.get? idA idB = none ↔ pair idA idB ∉ t.entries.map (·.1) := by
  rw [get?, lookup_eq_none_iff]

theorem SightTable.insert_of_present (present : t.get? idA idB ≠ none) :
    t.insert idA idB flag = .error (.duplicateSight (pair idA idB).1 (pair idA idB).2) := by
  rw [insert, if_pos (Option.isSome_iff_ne_none.2 present)]
  rfl

theorem SightTable.fills_addRow (rows : List SurveyRow) :
    telling.Fills (·.entries) rows (rows.foldlM addRow empty) := by
  have step (t : SightTable) (row : SurveyRow) : t.addRow row =
      telling.tell row >>= t.insert (row.trimmed 0) (row.trimmed 1) := by
    rw [addRow, telling]
    dsimp only
    cases LineOfSight.parse? (row.field 2) <;> rfl
  refine Telling.fills_foldlM rfl ?_ ?_ ?_ rows
  · intro t row error refused
    rw [step, refused]
    rfl
  · intro t row flag told known
    rw [key_eq] at known ⊢
    rw [step, told]
    exact insert_of_present fun absent => get?_eq_none_iff.1 absent known
  · intro t row flag told fresh
    rw [key_eq] at fresh ⊢
    rw [step, told]
    exact ⟨_, insert_of_absent (get?_eq_none_iff.2 fresh), rfl⟩

/-- How it ends to read a table of lines of sight. -/
inductive SightTable.Outcome (rows : List SurveyRow) : Except SurveyError SightTable → Prop
  | read {t : SightTable} : Valid rows → telling.Fills (·.entries) rows (.ok t) →
      Outcome rows (.ok t)
  | refused {error : SurveyError} : ¬ Valid rows → Outcome rows (.error error)

theorem SightTable.outcome_parse (content : String) :
    Outcome (SurveyRow.tagged tag content) (parse content) := by
  rw [parse]
  rcases SurveyRow.parse_cases tag content 3 with
    ⟨width, parsed⟩ | ⟨before, row, after, split, _, wrong, parsed⟩
  · rw [parsed]
    change Outcome _ (List.foldlM addRow empty _)
    generalize SurveyRow.tagged tag content = rows at width
    have fills := fills_addRow rows
    cases reached : rows.foldlM addRow empty with
    | ok t =>
      rw [reached] at fills
      obtain ⟨flagged, distinct⟩ := sound_iff.1 (fills.ok_iff.1 ⟨t, rfl⟩)
      exact .read ⟨width, flagged, distinct⟩ fills
    | error error =>
      refine .refused fun valid => ?_
      obtain ⟨t, read⟩ := fills.ok_iff.2 (sound_iff.2 ⟨valid.flagged, valid.distinct⟩)
      cases reached.symm.trans read
  · rw [parsed, split]
    exact .refused fun valid => wrong (valid.width row (by simp))

theorem SightTable.Outcome.ok_iff {result : Except SurveyError SightTable}
    (outcome : Outcome rows result) : (∃ t, result = .ok t) ↔ Valid rows := by
  cases outcome with
  | read valid _ => exact iff_of_true ⟨_, rfl⟩ valid
  | refused invalid => exact iff_of_false nofun invalid

theorem SightTable.Outcome.get?_eq_some_iff (outcome : Outcome rows (.ok t)) :
    t.get? idA idB = some flag ↔ Tells rows s(idA, idB) flag := by
  cases outcome with
  | read _ fills =>
    rw [get?, fills.lookup_iff]
    refine exists_congr fun row => and_congr_right fun _ => ?_
    rw [tell_eq_ok_iff, key_eq_pair_iff]

theorem SightTable.Outcome.get?_eq_none_iff (outcome : Outcome rows (.ok t)) :
    t.get? idA idB = none ↔ s(idA, idB) ∉ rows.map (·.ids) := by
  cases outcome with
  | read _ fills =>
    rw [get?, fills.lookup_none_iff]
    simp only [List.mem_map, key_eq_pair_iff]

theorem SightTable.Outcome.size_eq (outcome : Outcome rows (.ok t)) : t.size = rows.length := by
  cases outcome with
  | read _ fills => exact fills.length_eq

theorem SightTable.valid_iff_sights :
    Valid rows ↔ (∀ sight ∈ rows.map (·.sight), sight.1 = 3 ∧ ∃ flag, sight.2.2 = some flag) ∧
      ((rows.map (·.sight)).map (·.2.1)).Nodup := by
  rw [List.forall_mem_map, List.map_map]
  simp only [SurveyRow.sight, Function.comp_def]
  constructor
  · exact fun valid => ⟨fun row member => ⟨valid.width row member, valid.flagged row member⟩,
      valid.distinct⟩
  · exact fun both => ⟨fun row member => (both.1 row member).1,
      fun row member => (both.1 row member).2, both.2⟩

theorem SightTable.tells_iff_sights {ids : Sym2 String} :
    Tells rows ids flag ↔
      ∃ sight ∈ rows.map (·.sight), sight.2.1 = ids ∧ sight.2.2 = some flag := by
  simp only [List.mem_map, exists_exists_and_eq_and, SurveyRow.sight, Tells]

/-- Rows that come to the same are valid together. -/
theorem SightTable.valid_congr (perm : (rows.map (·.sight)).Perm (others.map (·.sight))) :
    Valid rows ↔ Valid others := by
  rw [valid_iff_sights, valid_iff_sights, (perm.map _).nodup_iff]
  simp only [perm.mem_iff]

theorem SightTable.tells_congr {ids : Sym2 String}
    (perm : (rows.map (·.sight)).Perm (others.map (·.sight))) :
    Tells rows ids flag ↔ Tells others ids flag := by
  simp only [tells_iff_sights, perm.mem_iff]

/-- What the fields behind the first tag of a line come to. -/
def SightTable.sightBehind (line : List Char) : Nat × Sym2 String × Option LineOfSight :=
  (SurveyRow.mk 0 (SurveyRow.fieldsBehind tag line)).sight

theorem SightTable.sights_tagged (content : String) :
    (SurveyRow.tagged tag content).map (·.sight) =
      (SurveyRow.taggedLines tag content).map sightBehind := by
  have byFields := congrArg (List.map fun fields => (SurveyRow.mk 0 fields).sight)
    (SurveyRow.fields_tagged tag content)
  rw [List.map_map, List.map_map] at byFields
  exact byFields

theorem SightTable.SameSight.sightBehind_eq {line other : List Char}
    (same : SameSight line other) : sightBehind line = sightBehind other := by
  cases same with
  | same => rfl
  | @exchanged lead idA idB rest first free =>
    have free' : ∀ field ∈ idB :: idA :: rest, ¬ Text.separator <:+: field := by
      simp only [List.forall_mem_cons] at free ⊢
      exact ⟨free.2.1, free.1, free.2.2⟩
    rw [sightBehind, sightBehind, SurveyRow.fieldsBehind_append first (List.cons_ne_nil _ _) free,
      SurveyRow.fieldsBehind_append first (List.cons_ne_nil _ _) free']
    exact Prod.ext rfl (Prod.ext Sym2.eq_swap rfl)

theorem SightTable.Rearranged.sights_perm {content other : String}
    (rearranged : Rearranged content other) :
    ((SurveyRow.tagged tag content).map (·.sight)).Perm
      ((SurveyRow.tagged tag other).map (·.sight)) := by
  obtain ⟨lines, same, perm⟩ := rearranged
  have equal : List.Forall₂ (· = ·) ((SurveyRow.taggedLines tag content).map sightBehind)
      (lines.map sightBehind) := by
    rw [List.forall₂_map_left_iff, List.forall₂_map_right_iff]
    exact same.imp fun _ _ => SameSight.sightBehind_eq
  rw [List.forall₂_eq_eq_eq] at equal
  rw [sights_tagged, sights_tagged, equal]
  exact perm.map _

/-- What comes of describing one more pair: the result, and the table that is left behind. -/
inductive SightTable.Insertion (t : SightTable) (idA idB : String) (flag : LineOfSight) :
    Except SurveyError SightTable → SightTable → Prop
  | added {next : SightTable} : t.get? idA idB = none → next.size = t.size + 1 →
      (∀ idC idD, next.get? idC idD =
        if s(idC, idD) = s(idA, idB) then some flag else t.get? idC idD) →
      Insertion t idA idB flag (.ok next) next
  | refused : t.get? idA idB ≠ none →
      Insertion t idA idB flag (.error (.duplicateSight (pair idA idB).1 (pair idA idB).2)) t

/-- Describes a pair, where that can be done. -/
def SightTable.attempt (t : SightTable) (call : (String × String) × LineOfSight) : SightTable :=
  (t.insert call.1.1 call.1.2 call.2).toOption.getD t

def SightTable.attempts (t : SightTable) (calls : List ((String × String) × LineOfSight)) :
    SightTable :=
  calls.foldl attempt t

theorem SightTable.get?_append_eq_ite (absent : t.get? idA idB = none) (idC idD : String) :
    (SightTable.mk (t.entries ++ [(pair idA idB, flag)])).get? idC idD =
      if s(idC, idD) = s(idA, idB) then some flag else t.get? idC idD := by
  rw [get?_append]
  by_cases same : s(idC, idD) = s(idA, idB)
  · have absent' : t.get? idC idD = none := by rw [get?, pair_eq_iff.2 same, ← get?, absent]
    rw [if_pos same, if_pos (pair_eq_iff.2 same.symm), absent', Option.none_or]
  · rw [if_neg same, if_neg fun pairs => same (pair_eq_iff.1 pairs).symm, Option.or_none]

theorem SightTable.insertion (t : SightTable) (idA idB : String) (flag : LineOfSight) :
    t.Insertion idA idB flag (t.insert idA idB flag) (t.attempt ((idA, idB), flag)) := by
  rw [attempt]
  by_cases absent : t.get? idA idB = none
  · rw [insert_of_absent absent]
    refine .added absent ?_ (get?_append_eq_ite absent)
    rw [size, List.length_append]
    rfl
  · rw [insert_of_present absent]
    exact .refused absent

/-- The first description of a pair counts, in whatever order the nodes are named. -/
theorem SightTable.get?_attempts (t : SightTable) (calls : List ((String × String) × LineOfSight))
    (idA idB : String) :
    (t.attempts calls).get? idA idB = (t.get? idA idB).or
      ((calls.find? fun call => s(call.1.1, call.1.2) = s(idA, idB)).map (·.2)) := by
  induction calls generalizing t with
  | nil => exact Option.or_none.symm
  | cons call calls ih =>
    obtain ⟨⟨idC, idD⟩, flag⟩ := call
    rw [attempts, List.foldl_cons, ← attempts, ih, List.find?_cons]
    have inserted := t.insertion idC idD flag
    generalize t.insert idC idD flag = result, t.attempt ((idC, idD), flag) = next at inserted
    by_cases same : s(idC, idD) = s(idA, idB)
    · have alike : t.get? idA idB = t.get? idC idD := by
        rw [get?, ← pair_eq_iff.2 same, get?]
      simp only [same, decide_true, Option.map_some]
      cases inserted with
      | added absent _ grown =>
        rw [grown, if_pos same.symm, alike, absent, Option.none_or, Option.some_or]
      | refused present =>
        obtain ⟨known, found⟩ := Option.ne_none_iff_exists'.1 present
        rw [alike, found, Option.some_or, Option.some_or]
    · simp only [same, decide_false]
      cases inserted with
      | added _ _ grown => rw [grown, if_neg fun reversed => same reversed.symm]
      | refused _ => rfl

end

/-- A table of lines of sight is a map on unordered pairs. Just the valid tables are read, and what
is looked up in them is what their rows say, whatever the order of the rows and of the ids in each.
A pair that is described later is added unless it is known. -/
theorem SightTable.sights_decided (content : String) : ∃ rows, SurveyRow.Lists tag content rows ∧
    ((∃ t, parse content = .ok t) ↔ Valid rows) ∧
    (∀ t, parse content = .ok t →
      (∀ idA idB flag, t.get? idA idB = some flag ↔ Tells rows s(idA, idB) flag) ∧
      (∀ idA idB, t.get? idA idB = none ↔ s(idA, idB) ∉ rows.map (·.ids)) ∧
      (∀ idA idB, t.get? idA idB = t.get? idB idA) ∧ t.size = rows.length) ∧
    (∀ other, Rearranged content other →
      ((∃ t, parse content = .ok t) ↔ ∃ t, parse other = .ok t) ∧
        ∀ t t', parse content = .ok t → parse other = .ok t' →
          ∀ idA idB, t.get? idA idB = t'.get? idA idB) ∧
    ∀ t, parse content = .ok t → ∀ calls idA idB,
      let later := t.attempts calls
      later.get? idA idB = later.get? idB idA ∧
        later.get? idA idB = (t.get? idA idB).or
          ((calls.find? fun call => s(call.1.1, call.1.2) = s(idA, idB)).map (·.2)) ∧
        ∀ flag, later.Insertion idA idB flag (later.insert idA idB flag)
          (later.attempt ((idA, idB), flag)) := by
  have outcome := outcome_parse content
  refine ⟨SurveyRow.tagged tag content, SurveyRow.lists_tagged tag content, outcome.ok_iff,
    fun t read => ?_, fun other rearranged => ?_, fun t _ calls idA idB => ?_⟩
  · rw [read] at outcome
    exact ⟨fun _ _ _ => outcome.get?_eq_some_iff, fun _ _ => outcome.get?_eq_none_iff,
      t.get?_comm, outcome.size_eq⟩
  · have outcome' := outcome_parse other
    have sights := rearranged.sights_perm
    refine ⟨?_, fun t t' read read' idA idB => Option.ext fun flag => ?_⟩
    · rw [outcome.ok_iff, outcome'.ok_iff, valid_congr sights]
    · rw [read] at outcome
      rw [read'] at outcome'
      rw [outcome.get?_eq_some_iff, outcome'.get?_eq_some_iff, tells_congr sights]
  · exact ⟨get?_comm _ idA idB, t.get?_attempts calls idA idB, fun flag => insertion _ _ _ _⟩

/-- The ids of a pair may be exchanged while the lines change places. -/
theorem SightTable.sights_decided_exchanged :
    let content := "los-info: A, B, yes\n\n#los-info: C, A, no\n"
    let other := "#los-info: A, C, no\nlos-info: A, B, yes"
    ∃ t t', parse content = .ok t ∧ parse other = .ok t' ∧ t.get? "A" "C" = some .no ∧
      (∀ idA idB, t.get? idA idB = t'.get? idA idB) ∧
      (t.attempts [(("C", "A"), .yes), (("C", "B"), .yes)]).get? "B" "C" = some .yes := by
  intro content other
  obtain ⟨_, _, _, _, rearranged, later⟩ := sights_decided content
  have accepted : (parse content).toOption.map (fun t => (t.get? "A" "C", t.get? "B" "C")) =
      some (some .no, none) := by
    decide +kernel
  obtain ⟨t, told, looked⟩ := Option.map_eq_some_iff.1 accepted
  obtain ⟨known, unknown⟩ := Prod.mk.inj looked
  have read := Except.toOption_eq_some_iff.1 told
  have first : Text.FirstMark tag.toList ['#'] [] :=
    Text.firstMark_of_cut? (by decide +kernel : Text.cut? tag.toList "#los-info: ".toList = _)
  have lines : SurveyRow.taggedLines tag content = [
      "los-info: A, B, yes".toList,
      ['#'] ++ tag.toList ++ Text.unfields [['C'], ['A'], ['n', 'o']]] := by
    decide +kernel
  have lines' : SurveyRow.taggedLines tag other = [
      ['#'] ++ tag.toList ++ Text.unfields [['A'], ['C'], ['n', 'o']],
      "los-info: A, B, yes".toList] := by
    decide +kernel
  have moved : Rearranged content other := by
    refine ⟨(SurveyRow.taggedLines tag other).reverse, ?_, List.reverse_perm _⟩
    rw [lines, lines']
    exact .cons (.same _) (.cons (.exchanged first (by decide +kernel)) .nil)
  obtain ⟨alike, same⟩ := rearranged other moved
  obtain ⟨t', read'⟩ := alike.1 ⟨t, read⟩
  obtain ⟨_, added, _⟩ := later t read [(("C", "A"), .yes), (("C", "B"), .yes)] "B" "C"
  refine ⟨t, t', read, read', known, same t t' read read', ?_⟩
  rw [added, unknown]
  decide +kernel

end RangeTest
