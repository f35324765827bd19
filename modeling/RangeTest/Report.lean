import RangeTest.Decimal.Style
import RangeTest.LinkSummary
import RangeTest.Stream

namespace RangeTest

/-- The part of the report on one descriptor of a link. -/
def LinkSummary.report (s : LinkSummary) : List String :=
  if s.received = 0 then
    [s!"No messages received by {s.receiver} from {s.sender} with descriptor {s.descriptor}\n",
      "\n"]
  else
    let rssi := match s.averageRssi with
      | some mean => FloatText.report mean
      | none => "unavailable"
    let loss := match s.lossPercent with
      | some percent => FloatText.report percent ++ " %"
      | none => "unavailable"
    [s!"Amount of received messages by {s.receiver} from {s.sender} " ++
        s!"with descriptor {s.descriptor}: {s.received}\n",
      s!"Average RSSI: {rssi}\n",
      s!"Packet loss rate: {loss}\n",
      "\n"]

/-- The report for the operator, in the pieces in which it is written. -/
def Report.fragments (title : String) (links : List LinkSummary) : List String :=
  ["\n", s!"Results for {title}\n", String.ofList (List.replicate 80 '-') ++ "\n"] ++
    links.flatMap LinkSummary.report

def Report.text (title : String) (links : List LinkSummary) : String :=
  String.join (fragments title links)

def Report.write (title : String) (links : List LinkSummary) : Act Sink IoError Unit :=
  Sink.writeAll (fragments title links)

end RangeTest
