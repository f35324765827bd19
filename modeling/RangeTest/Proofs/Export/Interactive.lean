import RangeTest.Proofs.Export.RoundTrip
import RangeTest.Proofs.Survey.Agreement

namespace RangeTest

theorem LinkSite.resolve_agrees (link : LinkSummary) :
    Interview.Agrees (resolve .interactive link) (resolve .strict link) := by
  refine (Interview.nodeInfo_agrees link.receiver).bind fun rx => ?_
  refine (Interview.nodeInfo_agrees link.sender).bind fun tx => ?_
  exact (Interview.lineOfSight_agrees rx.id tx.id).bind fun _ => .pure _

theorem Row.ofLink_agrees (a : Analysis) (lengthField : UInt32) (link : LinkSummary) :
    Interview.Agrees (ofLink a (some .interactive) lengthField link)
      (ofLink a (some .strict) lengthField link) := by
  rw [ofLink, ofLink]
  cases a.link? link with
  | none => exact .pure []
  | some l =>
    refine ((LinkSite.resolve_agrees link).map some).bind fun site => ?_
    exact .mapM (fun r => .ofExcept (ofPacket link site lengthField r)) _

theorem Analysis.rows_agrees (a : Analysis) (lengthField : UInt32) :
    Interview.Agrees (a.rows (some .interactive) lengthField)
      (a.rows (some .strict) lengthField) := by
  refine (Interview.Agrees.mapM (Row.ofLink_agrees a lengthField) _).bind fun groups => ?_
  exact .pure groups.flatten

/-- What is known where `A` received the one packet that `B` sent. -/
def Analysis.ofSample : Analysis :=
  let correlator := Correlator.run (Intake.logs [.sample 1 "A"] [.sample 1 "B"])
  { correlator, rxCounters := { matched := 1 }, txCounters := { matched := 1 },
    links := correlator.summaries }

/-- An operator who describes two nodes and the way between them, not always at the first try. -/
def Console.answering : Console :=
  .start (["N1\n", "1.5\n", "dipole\n", "many\n", "21\n", "0 0\n", "0 0 0\n", "N2\n", "2\n",
    "whip\n", "20\n", "3 4 12\n", "yes"].map .ok) .unlimited

/-- The export with an operator agrees with the strict one. If it succeeds, its tables have grown
without a change to their entries, and the strict export over them succeeds with the same rows. If
the strict export over the first tables succeeds, the one with an operator has the same rows, prints
nothing and reads nothing. -/
theorem Analysis.rows_interactive (a : Analysis) (survey : Survey) (console : Console)
    (lengthField : UInt32) :
    (∀ rows after,
      Act.from (a.rows (some .interactive) lengthField) ⟨survey, console⟩ = (.ok rows, after) →
        survey.Extends after.survey ∧
          Act.from (a.rows (some .strict) lengthField) after.survey = (.ok rows, after.survey)) ∧
      ∀ rows after,
        Act.from (a.rows (some .strict) lengthField) survey = (.ok rows, after) →
          Act.from (a.rows (some .interactive) lengthField) ⟨survey, console⟩ =
            (.ok rows, ⟨survey, console⟩) := by
  have agrees := rows_agrees a lengthField
  constructor
  · intro rows after built
    obtain ⟨grown, replay⟩ := agrees.replayed built
    exact ⟨grown, replay (.refl _)⟩
  · intro rows after built
    exact (agrees.quiet console built).2

/-- With the tables that an operator has filled, the next operator has nothing to do. -/
theorem Analysis.rows_interactive_twice : ∃ rows after,
    Act.from (ofSample.rows (some .interactive) 1) ⟨.empty, .answering⟩ = (.ok rows, after) ∧
      rows.map (·.cell? "Is_line_of_sight") = [some "yes"] ∧ after.console.input = [] ∧
      Survey.empty.Extends after.survey ∧
      Act.from (ofSample.rows (some .strict) 1) after.survey = (.ok rows, after.survey) ∧
      Act.from (ofSample.rows (some .interactive) 1) ⟨after.survey, .start [] .unlimited⟩ =
        (.ok rows, ⟨after.survey, .start [] .unlimited⟩) := by
  have cells : (Act.from (ofSample.rows (some .interactive) 1) ⟨.empty, .answering⟩).1.toOption.map
      (·.map (·.cell? "Is_line_of_sight")) = some [some "yes"] := by decide +kernel
  have used : (Act.from (ofSample.rows (some .interactive) 1)
      ⟨.empty, .answering⟩).2.console.input.length = 0 := by decide +kernel
  cases built : Act.from (ofSample.rows (some .interactive) 1) ⟨.empty, .answering⟩ with
  | mk outcome after =>
    rw [built] at cells used
    cases outcome with
    | error error => cases cells
    | ok rows =>
      have same : rows.map (·.cell? "Is_line_of_sight") = [some "yes"] := Option.some.inj cells
      obtain ⟨grown, replay⟩ := (rows_interactive ofSample .empty .answering 1).1 rows after built
      have quiet := (rows_interactive ofSample after.survey (.start [] .unlimited) 1).2
      exact ⟨rows, after, rfl, same, List.length_eq_zero_iff.1 used, grown, replay,
        quiet rows after.survey replay⟩

end RangeTest
