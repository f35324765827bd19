import RangeTest.Analysis
import RangeTest.Settings
import RangeTest.Survey.Row
import RangeTest.Text.Lines

namespace RangeTest

inductive Failure where
  | settings (cause : SettingsError)
  | analysis (cause : AnalysisError)
  | report (cause : IoError)
  | nodeTable (path : String) (cause : SurveyError)
  | sightTable (path : String) (cause : SurveyError)
  | csv (path : String) (cause : ExportError)
  | summary (path : String) (cause : ExportError)
  deriving DecidableEq, Repr

def Failure.message : Failure → String
  | settings cause => cause.message
  | analysis cause => cause.message
  | report _ => "Failed to write report"
  | nodeTable path _ => s!"Failed to load node table {path}"
  | sightTable path _ => s!"Failed to load line-of-sight table {path}"
  | csv path _ => s!"Failed to export CSV {path}"
  | summary path _ => s!"Failed to write summary {path}"

def Failure.causes : Failure → List String
  | settings _ => []
  | analysis cause => cause.causes
  | report cause => [cause.message]
  | nodeTable _ cause => [cause.message]
  | sightTable _ cause => [cause.message]
  | csv _ cause => cause.message :: cause.cause?.toList
  | summary _ cause => cause.message :: cause.cause?.toList

/-- Text with something in front of its first line, and blanks as wide in front of the others. -/
def Failure.indent (lead text : String) : String :=
  let margin := String.ofList (List.replicate lead.length ' ')
  match Text.lines text.toList with
  | [] => lead
  | first :: rest =>
    lead ++ String.ofList first ++
      String.join (rest.map fun line => "\n" ++ margin ++ String.ofList line)

/-- The list of causes, which are numbered if there are several. -/
def Failure.listCauses : List String → String
  | [] => ""
  | [cause] => "\n\nCaused by:\n" ++ indent "    " cause
  | causes =>
    "\n\nCaused by:" ++
      String.join (causes.zipIdx.map fun (cause, index) => "\n" ++ indent s!"    {index}: " cause)

def Failure.account (f : Failure) : String :=
  "Error: " ++ f.message ++ listCauses f.causes

end RangeTest
