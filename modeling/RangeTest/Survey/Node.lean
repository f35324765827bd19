import RangeTest.Decimal.Literal
import RangeTest.Survey.Row

namespace RangeTest

/-- A point in space, in the unit of the survey. -/
structure Position where
  x : Float
  y : Float
  z : Float

def Position.squaredDistance (a b : Position) : Float :=
  let dx := a.x - b.x
  let dy := a.y - b.y
  let dz := a.z - b.z
  dx * dx + dy * dy + dz * dz

def Position.distance (a b : Position) : Float :=
  (a.squaredDistance b).sqrt

structure NodeInfo where
  id : String
  height : Float
  antenna : String
  temperature : Float
  position : Position

/-- The nodes of a site by link address, in the order in which they were described. -/
structure NodeTable where
  entries : List (String × NodeInfo)

def NodeTable.empty : NodeTable :=
  ⟨[]⟩

def NodeTable.get? (t : NodeTable) (address : String) : Option NodeInfo :=
  (t.entries.find? (·.1 == address)).map (·.2)

def NodeTable.size (t : NodeTable) : Nat :=
  t.entries.length

/-- Describes one more address. An address is described once only. -/
def NodeTable.insert (t : NodeTable) (address : String) (info : NodeInfo) :
    Except SurveyError NodeTable :=
  if (t.get? address).isSome then throw (.duplicateAddress address)
  else return ⟨t.entries ++ [(address, info)]⟩

def SurveyRow.number (row : SurveyRow) (index : Nat) (name : String) : Except SurveyError Float :=
  let field := row.field index
  match FloatText.read? (Text.trim field) with
  | some x => return x
  | none => throw (.row row.line (.notANumber name (String.ofList field)))

def SurveyRow.nodeInfo (row : SurveyRow) : Except SurveyError NodeInfo := do
  let height ← row.number 2 "height"
  let temperature ← row.number 4 "temperature"
  let x ← row.number 5 "x"
  let y ← row.number 6 "y"
  let z ← row.number 7 "z"
  return {
    id := row.trimmed 1
    height
    antenna := row.trimmed 3
    temperature
    position := { x, y, z } }

def NodeTable.addRow (t : NodeTable) (row : SurveyRow) : Except SurveyError NodeTable := do
  let info ← row.nodeInfo
  t.insert (row.trimmed 0) info

/-- Two entries that share a node id, if there are any. -/
def NodeTable.sharedId? : List (String × NodeInfo) → Option SurveyError
  | [] => none
  | (address, info) :: rest =>
    match rest.find? (·.2.id == info.id) with
    | some (other, _) => some (.duplicateId info.id address other)
    | none => sharedId? rest

/-- The mark in front of the description of a node. -/
def NodeTable.tag : String := "node-info: "

/-- Reads a table of nodes. Lines without the tag do not matter. The ids have to differ as well,
since the table of sights speaks of nodes by their ids. -/
def NodeTable.parse (content : String) : Except SurveyError NodeTable := do
  let rows ← SurveyRow.parse tag 8 content
  let table ← rows.foldlM addRow empty
  match sharedId? table.entries with
  | some error => throw error
  | none => return table

end RangeTest
