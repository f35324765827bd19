import RangeTest.Analysis
import RangeTest.Csv.Writer
import RangeTest.Export.Error
import RangeTest.Export.Row
import RangeTest.Json.Value
import RangeTest.Stream
import RangeTest.Workspace

namespace RangeTest

def Json.optionalFloat : Option Float → Json
  | some x => .float x
  | none => .null

def Json.ofCounters (c : Counters) : Json :=
  .object [("matched", .natural c.matched), ("skipped", .natural c.skipped),
    ("malformed", .natural c.malformed)]

def Json.ofLinkSummary (s : LinkSummary) : Json :=
  .object [("receiver", .text s.receiver), ("sender", .text s.sender),
    ("descriptor", .text s.descriptor), ("transmitted", .natural s.transmitted),
    ("received", .natural s.received), ("average_rssi", optionalFloat s.averageRssi),
    ("loss_ratio", optionalFloat s.lossRatio)]

def Json.ofAnalysis (rxLog txLog : String) (a : Analysis) : Json :=
  .object [("rx_log", .text rxLog), ("tx_log", .text txLog),
    ("rx_counters", ofCounters a.rxCounters), ("tx_counters", ofCounters a.txCounters),
    ("duplicates", .natural a.correlator.duplicates),
    ("links", .array (a.links.map ofLinkSummary))]

/-- The text of a summary with its final line feed. -/
def Summary.text (rxLog txLog : String) (a : Analysis) : String :=
  String.join (Json.fragments 0 (.ofAnalysis rxLog txLog a)) ++ "\n"

def Summary.write (rxLog txLog : String) (a : Analysis) : Act Sink ExportError Unit := do
  Act.mapError .json (Sink.writeAll (Json.fragments 0 (.ofAnalysis rxLog txLog a)))
  Act.mapError .io (Sink.writeAll ["\n"])

/-- Writes rows to a file, and tells how many. -/
def Row.exportTo (path : String) (rows : List Row) : Act Workspace ExportError Nat := do
  if rows.isEmpty then Workspace.notify [.nothingToExport path]
  Workspace.create path (Csv.write header rows)
  Workspace.notify [.rowsWritten rows.length path]
  return rows.length

/-- Exports the received packets. All rows are made before the file is touched. -/
def Analysis.exportRows (a : Analysis) (resolver : Option (Resolver σ)) (lengthField : UInt32)
    (path : String) : Act (σ × Workspace) ExportError Nat := do
  let rows ← Act.zoom Prod.fst (fun source whole => (source, whole.2)) (a.rows resolver lengthField)
  Act.zoom Prod.snd (fun workspace whole => (whole.1, workspace)) (Row.exportTo path rows)

/-- Exports the summary of a run on two logs. -/
def Analysis.exportSummary (a : Analysis) (rxLog txLog path : String) :
    Act Workspace ExportError Unit := do
  Workspace.create path (Summary.write rxLog txLog a)
  Workspace.notify [.summaryWritten a.links.length path]

end RangeTest
