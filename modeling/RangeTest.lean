import RangeTest.Record
import RangeTest.Csv.Reader
import RangeTest.Main
import RangeTest.Proofs.Correlator.Balance
import RangeTest.Proofs.Correlator.Refinement
import RangeTest.Proofs.Loss.Proportion
import RangeTest.Proofs.Summary.Permutation
import RangeTest.Proofs.Summary.WholeBase
import RangeTest.Proofs.Export.RoundTrip
import RangeTest.Proofs.Export.Coverage
import RangeTest.Proofs.Export.Interactive
import RangeTest.Proofs.Survey.Identity
import RangeTest.Proofs.Log.Policies
import RangeTest.Proofs.Command.Run
import RangeTest.Proofs.Log.FirstBad
import RangeTest.Proofs.Log.Editing
import RangeTest.Proofs.Correlator.Untimed
import RangeTest.Proofs.Export.Untimed
import RangeTest.Proofs.Log.Leads
import RangeTest.Proofs.Binary64.Difference
import RangeTest.Proofs.Export.Consistency
import RangeTest.Proofs.Record.RoundTrip
import RangeTest.Proofs.Record.Skipped
import RangeTest.Proofs.Record.Grammar
import RangeTest.Proofs.Binary64.Order
import RangeTest.Proofs.Link.History
import RangeTest.Proofs.Loss.Increasing
import RangeTest.Proofs.Summary.Order
import RangeTest.Proofs.Summary.Availability
import RangeTest.Proofs.Export.Gaps
import RangeTest.Proofs.Survey.Memory
import RangeTest.Proofs.Frame.Size
import RangeTest.Proofs.Survey.Nodes
import RangeTest.Proofs.Survey.Sights
import RangeTest.Proofs.Survey.Dialogue
import RangeTest.Proofs.Link.Logged
import RangeTest.Proofs.Link.Requests
import RangeTest.Proofs.Link.Stability
import RangeTest.Proofs.Link.Deduplication
import RangeTest.Proofs.Truncation
import RangeTest.Proofs.Calendar.Stamp
import RangeTest.Proofs.Record.Capture
import RangeTest.Proofs.Export.Timestamp
