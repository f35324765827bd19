import RangeTest.Link.Basic
import RangeTest.Record.Reader
import RangeTest.Text.Control

namespace RangeTest

/-- How the lines of a log were read, by kind. -/
structure Counters where
  matched : Nat := 0
  skipped : Nat := 0
  malformed : Nat := 0
  deriving DecidableEq, Repr

def Counters.lines (c : Counters) : Nat :=
  c.matched + c.skipped + c.malformed

inductive Severity where
  | debug
  | info
  | warning
  deriving DecidableEq, Repr

def Severity.label : Severity → String
  | debug => "DEBUG"
  | info => "INFO"
  | warning => "WARN"

/-- What a run tells its operator beside its results. -/
inductive Notice where
  | malformedSkipped (source : String) (line : Nat) (fault : RecordFault)
  | receptionRefused (error : LinkError)
  | transmissionRefused (receiver : String) (error : LinkError)
  | logRead (source : String) (counters : Counters)
  | duplicatesIgnored (count : Nat)
  | neverTransmitted (receiver sender descriptor : String)
  | averageUnavailable (error : LinkError)
  | lossUnavailable (receiver sender : String) (error : LinkError)
  | settingsLoading (path : String)
  | settingsAbsent (path : String)
  | sightsWithoutNodes
  | tablesLoaded (nodes sights : Nat)
  | nothingToExport (path : String)
  | rowsWritten (count : Nat) (path : String)
  | summaryWritten (links : Nat) (path : String)
  deriving DecidableEq, Repr

def Notice.severity : Notice → Severity
  | malformedSkipped .. | receptionRefused .. | transmissionRefused .. | duplicatesIgnored ..
  | neverTransmitted .. | averageUnavailable .. | lossUnavailable .. | sightsWithoutNodes
  | nothingToExport .. => .warning
  | logRead .. | settingsLoading .. | tablesLoaded .. | rowsWritten .. | summaryWritten .. => .info
  | settingsAbsent .. => .debug

def Notice.message : Notice → String
  | malformedSkipped source line fault =>
    s!"{source}:{line}: skipping malformed record: {fault.message}"
  | receptionRefused error => error.message
  | transmissionRefused receiver error => s!"{error.message} (receiver {receiver})"
  | logRead source c =>
    s!"{source}: {c.lines} lines, {c.matched} records, {c.skipped} skipped, {c.malformed} malformed"
  | duplicatesIgnored count => s!"{count} duplicate records were ignored"
  | neverTransmitted receiver sender descriptor =>
    s!"{receiver} received packets from {sender} with descriptor {descriptor} " ++
      "that were never logged as transmitted"
  | averageUnavailable error => error.message
  | lossUnavailable receiver sender error => s!"{sender} -> {receiver}: {error.message}"
  | settingsLoading path => s!"Loading configuration from {path}"
  | settingsAbsent path => s!"No {path} found, using defaults"
  | sightsWithoutNodes => "--los has no effect without --nodes or --interactive"
  | tablesLoaded nodes sights => s!"Loaded {nodes} node-info and {sights} los-info entries"
  | nothingToExport path => s!"No received packets to export, {path} will only contain the header"
  | rowsWritten count path => s!"Wrote {count} rows to {path}"
  | summaryWritten links path => s!"Wrote summary of {links} links to {path}"

/-- A notice as it is shown, its line end included. Further lines of the message are set off, and
control sequences have no effect; one that is not closed takes the line end with it. -/
def Notice.text (n : Notice) : String :=
  let setOff := n.message.toList.flatMap fun c =>
    if c = '\n' then ['\n', ' ', ' ', ' ', ' '] else [c]
  String.ofList (Text.plain (n.severity.label.toList ++ ' ' :: setOff ++ ['\n']))

end RangeTest
