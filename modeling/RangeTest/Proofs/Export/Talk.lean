import RangeTest.Export.Row
import RangeTest.Proofs.Delivery
import RangeTest.Survey.Dialogue

namespace RangeTest

/-- An action that at most prints something for the operator. -/
abbrev Console.Talks (act : Act Console ε α) : Prop :=
  Act.Moves output Sink.Extends act

theorem Console.print_talks (fragments : List String) : Talks (print fragments) :=
  fun console => Sink.writeAll_extends fragments console.output

theorem Console.askLines_talks (prompt : String) (parse : List Char → Option α)
    (lines : List RawLine) : Talks (askLines prompt parse lines) := by
  induction lines with
  | nil =>
    refine (print_talks _).bind fun _ => ?_
    exact .modify_bind (fun _ => rfl) (.pure none)
  | cons line rest ih =>
    refine (print_talks _).bind fun _ => .modify_bind (fun _ => rfl) ?_
    cases line with
    | error cause => exact .throw _
    | ok text =>
      dsimp only
      cases parse (Text.trim text.toList) with
      | some value => exact .pure _
      | none => exact (print_talks _).bind fun _ => ih

theorem Console.ask_talks (prompt : String) (parse : List Char → Option α) :
    Talks (ask prompt parse) :=
  .get_bind fun console => askLines_talks prompt parse console.input

theorem Console.askNode_talks (address : String) : Talks (askNode address) := by
  refine (print_talks _).bind fun _ => ?_
  refine (ask_talks _ _).bind_option (.pure none) fun id => ?_
  refine (ask_talks _ _).bind_option (.pure none) fun height => ?_
  refine (ask_talks _ _).bind_option (.pure none) fun antenna => ?_
  refine (ask_talks _ _).bind_option (.pure none) fun temperature => ?_
  exact (ask_talks _ _).bind_option (.pure none) fun position => .pure _

/-- An action that at most prints something for the operator. -/
abbrev Interview.Talks (act : Act Interview ε α) : Prop :=
  Act.Moves (·.console.output) Sink.Extends act

theorem Interview.talk_talks {act : Act Console ExportError α} (talks : Console.Talks act) :
    Talks (talk act) :=
  fun interview => talks interview.console

theorem Interview.nodeInfo_talks (address : String) : Talks (nodeInfo address) := by
  refine .get_bind fun interview => ?_
  cases interview.survey.nodes.get? address with
  | some info => exact .pure info
  | none =>
    refine (talk_talks (Console.askNode_talks address)).bind_option (.throw _) fun info => ?_
    exact .modify_bind (fun _ => rfl) (.pure info)

theorem Interview.lineOfSight_talks (idA idB : String) : Talks (lineOfSight idA idB) := by
  refine .get_bind fun interview => ?_
  cases interview.survey.sights.get? idA idB with
  | some flag => exact .pure flag
  | none =>
    refine (talk_talks (Console.ask_talks _ _)).bind_option (.throw _) fun flag => ?_
    exact .modify_bind (fun _ => rfl) (.pure flag)

theorem LinkSite.resolve_talks (link : LinkSummary) :
    Interview.Talks (resolve .interactive link) := by
  refine (Interview.nodeInfo_talks link.receiver).bind fun rx => ?_
  refine (Interview.nodeInfo_talks link.sender).bind fun tx => ?_
  exact (Interview.lineOfSight_talks rx.id tx.id).bind fun _ => .pure _

theorem Row.ofLink_talks (a : Analysis) (lengthField : UInt32) (link : LinkSummary) :
    Interview.Talks (ofLink a (some .interactive) lengthField link) := by
  rw [ofLink]
  cases a.link? link with
  | none => exact .pure []
  | some l =>
    refine ((LinkSite.resolve_talks link).map some).bind fun site => ?_
    exact .mapM (fun r => .ofExcept (ofPacket link site lengthField r)) _

theorem Analysis.rows_talks (a : Analysis) (lengthField : UInt32) :
    Interview.Talks (a.rows (some .interactive) lengthField) := by
  refine (Act.Moves.mapM (Row.ofLink_talks a lengthField) _).bind fun groups => ?_
  exact .pure groups.flatten

end RangeTest
