import RangeTest.Survey.Row

namespace RangeTest

/-- Whether the way between two nodes is unobstructed. -/
inductive LineOfSight where
  | yes
  | no
  deriving DecidableEq, Repr

def LineOfSight.text : LineOfSight → String
  | yes => "yes"
  | no => "no"

/-- Reads a flag in any of its spellings; the case of ASCII letters and blanks around it do not
matter. -/
def LineOfSight.parse? (flag : List Char) : Option LineOfSight :=
  let word := String.ofList ((Text.trim flag).map Char.toLower)
  if word ∈ ["yes", "y", "true", "1", "los"] then some yes
  else if word ∈ ["no", "n", "false", "0", "nlos"] then some no
  else none

/-- The lines of sight of a site by pairs of node ids. The smaller id of a pair comes first. -/
structure SightTable where
  entries : List ((String × String) × LineOfSight)

def SightTable.empty : SightTable :=
  ⟨[]⟩

/-- One name for both orders of two ids. -/
def SightTable.pair (idA idB : String) : String × String :=
  if idA ≤ idB then (idA, idB) else (idB, idA)

theorem SightTable.pair_comm (idA idB : String) : pair idA idB = pair idB idA := by
  rw [pair, pair]
  by_cases first : idA ≤ idB
  · by_cases second : idB ≤ idA
    · rw [if_pos first, if_pos second, String.le_antisymm first second]
    · rw [if_pos first, if_neg second]
  · have second : idB ≤ idA := (String.le_total idA idB).resolve_left first
    rw [if_neg first, if_pos second]

def SightTable.get? (t : SightTable) (idA idB : String) : Option LineOfSight :=
  (t.entries.find? (·.1 == pair idA idB)).map (·.2)

theorem SightTable.get?_comm (t : SightTable) (idA idB : String) :
    t.get? idA idB = t.get? idB idA := by
  rw [get?, pair_comm, get?]

def SightTable.size (t : SightTable) : Nat :=
  t.entries.length

/-- Describes one more pair. A pair is described once only. -/
def SightTable.insert (t : SightTable) (idA idB : String) (flag : LineOfSight) :
    Except SurveyError SightTable :=
  let key := pair idA idB
  if (t.get? idA idB).isSome then throw (.duplicateSight key.1 key.2)
  else return ⟨t.entries ++ [(key, flag)]⟩

def SightTable.addRow (t : SightTable) (row : SurveyRow) : Except SurveyError SightTable :=
  match LineOfSight.parse? (row.field 2) with
  | none => throw (.row row.line (.unknownFlag (String.ofList (row.field 2))))
  | some flag => t.insert (row.trimmed 0) (row.trimmed 1) flag

def SightTable.tag : String := "los-info: "

/-- Reads a table of lines of sight. Lines without the tag do not matter. -/
def SightTable.parse (content : String) : Except SurveyError SightTable := do
  let rows ← SurveyRow.parse tag 3 content
  rows.foldlM addRow empty

end RangeTest
