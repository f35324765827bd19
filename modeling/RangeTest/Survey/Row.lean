import RangeTest.Stream
import RangeTest.Text.Lines
import RangeTest.Text.Parts

namespace RangeTest

inductive RowFault where
  | fieldCount (expected found : Nat)
  | notANumber (field text : String)
  | unknownFlag (text : String)
  deriving DecidableEq, Repr

def RowFault.message : RowFault → String
  | fieldCount expected found => s!"expected {expected} fields, found {found}"
  | notANumber field text => s!"{field} is not a number: '{text}'"
  | unknownFlag text => s!"unknown line-of-sight flag '{text}'"

inductive SurveyError where
  | unreadable (path : String) (cause : IoError)
  | row (line : Nat) (fault : RowFault)
  | duplicateAddress (address : String)
  | duplicateSight (idA idB : String)
  | duplicateId (id addressA addressB : String)
  deriving DecidableEq, Repr

def SurveyError.message : SurveyError → String
  | unreadable path cause => s!"Failed to read file: Failed to read file: {path}: {cause.message}"
  | row line fault => s!"Line {line}: {fault.message}"
  | duplicateAddress address =>
    s!"Validation error: Duplicate node-info for link address {address}"
  | duplicateSight idA idB => s!"Validation error: Duplicate los-info for nodes {idA} and {idB}"
  | duplicateId id addressA addressB =>
    s!"Validation error: Node id {id} is used by both {addressA} and {addressB}"

/-- A line of a table that carries the tag: its number, counted from one, and its fields. -/
structure SurveyRow where
  line : Nat
  fields : List (List Char)

/-- The fields behind the first tag of a line. -/
def SurveyRow.fields? (tag : String) (line : List Char) : Option (List (List Char)) :=
  (Text.cut? tag.toList (Text.trimEnd line)).map fun (_, row) => Text.fields row

/-- The rows of a table, which are its lines with the tag. -/
def SurveyRow.tagged (tag : String) (content : String) : List SurveyRow :=
  (Text.lines content.toList).zipIdx.filterMap fun (line, index) =>
    (fields? tag line).map fun fields => ⟨index + 1, fields⟩

/-- The rows of a table, provided that each has the same number of fields. -/
def SurveyRow.parse (tag : String) (width : Nat) (content : String) :
    Except SurveyError (List SurveyRow) :=
  let rows := tagged tag content
  match rows.find? fun row => row.fields.length != width with
  | some row => throw (.row row.line (.fieldCount width row.fields.length))
  | none => return rows

def SurveyRow.field (row : SurveyRow) (index : Nat) : List Char :=
  row.fields.getD index []

def SurveyRow.trimmed (row : SurveyRow) (index : Nat) : String :=
  String.ofList (Text.trim (row.field index))

end RangeTest
