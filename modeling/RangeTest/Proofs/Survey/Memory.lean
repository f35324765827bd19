import RangeTest.Proofs.Export.Interactive

namespace RangeTest

/-- What an interview comes to as questions are asked, answered or not. The console may be another
one for the next question, as where output that has failed works again. -/
inductive Interview.Reaches (interview : Interview) : Interview → Prop
  | start : Reaches interview interview
  | asked {later : Interview} (query : Survey.Query) : Reaches interview later →
      Reaches interview (later.after query)
  | meanwhile {later : Interview} (console : Console) : Reaches interview later →
      Reaches interview { later with console }

section
variable {interview middle later after : Interview}

theorem Interview.Reaches.extends (reached : interview.Reaches later) :
    interview.survey.Extends later.survey := by
  induction reached with
  | start => exact .refl _
  | asked query _ ih => exact ih.trans (extends_after _ query)
  | meanwhile console _ ih => exact ih

/-- What the operator has told once is not asked again. -/
theorem Interview.Agrees.remembered {act : Act Interview ExportError α}
    {plain : Act Survey ExportError α} (agrees : Agrees act plain) {value : α}
    (told : Act.from act interview = (.ok value, middle)) (reached : middle.Reaches later) :
    Act.from act later = (.ok value, later) := by
  have replayed := (agrees.replayed told).2 reached.extends
  exact (agrees.quiet later.console replayed).2

theorem Interview.lineOfSight_comm {idA idB : String} {flag : LineOfSight}
    (known : Act.from (lineOfSight idA idB) interview = (.ok flag, interview)) :
    Act.from (lineOfSight idB idA) interview = (.ok flag, interview) := by
  have replayed := ((lineOfSight_agrees idA idB).replayed known).2 (.refl _)
  rw [Resolver.from_strict_lineOfSight, Prod.mk.injEq, Survey.lineOfSight_eq_ok_iff,
    SightTable.get?_comm, ← Survey.lineOfSight_eq_ok_iff] at replayed
  have reversed : Act.from (Resolver.strict.lineOfSight idB idA) interview.survey =
      (.ok flag, interview.survey) := by
    rw [Resolver.from_strict_lineOfSight, replayed.1]
  exact ((lineOfSight_agrees idB idA).quiet interview.console reversed).2

theorem Interview.Settled.survey_eq {known : Option α}
    {asked : Except ExportError (Option α) × Console} {noted : α → Survey} {error : ExportError}
    (settled : interview.Settled known asked noted (.error error, after)) :
    after.survey = interview.survey := by
  cases settled with
  | refused _ _ => rfl

end

/-- Answers are remembered and failures are not. What was found about a node or about the way
between two nodes is found again by every later question, in either direction, and the operator
notices nothing of it. A question that fails leaves the tables as they were. -/
theorem Interview.remembers (interview : Interview) :
    (∀ address info middle, Act.from (nodeInfo address) interview = (.ok info, middle) →
        ∀ later, middle.Reaches later → Act.from (nodeInfo address) later = (.ok info, later)) ∧
      (∀ idA idB flag middle, Act.from (lineOfSight idA idB) interview = (.ok flag, middle) →
        ∀ later, middle.Reaches later →
          Act.from (lineOfSight idA idB) later = (.ok flag, later) ∧
            Act.from (lineOfSight idB idA) later = (.ok flag, later)) ∧
      (∀ address error after, Act.from (nodeInfo address) interview = (.error error, after) →
        after.survey = interview.survey) ∧
      ∀ idA idB error after, Act.from (lineOfSight idA idB) interview = (.error error, after) →
        after.survey = interview.survey := by
  refine ⟨?_, ?_, ?_, ?_⟩
  · intro address info middle told later reached
    exact (nodeInfo_agrees address).remembered told reached
  · intro idA idB flag middle told later reached
    have known := (lineOfSight_agrees idA idB).remembered told reached
    exact ⟨known, lineOfSight_comm known⟩
  · intro address error after failed
    exact (failed ▸ interview.nodeInfo_settled address).survey_eq
  · intro idA idB error after failed
    exact (failed ▸ interview.lineOfSight_settled idA idB).survey_eq

/-- The operator describes two nodes and the way between them, and then the input ends. -/
theorem Interview.remembers_answering :
    let start := mk .empty .answering
    let first := start.after (.node "A")
    let second := first.after (.node "B")
    let third := second.after (.sight "N2" "N1")
    let fourth := third.after (.node "C")
    let fifth := fourth.after (.sight "N1" "N3")
    (∃ info, info.id = "N1" ∧ Act.from (nodeInfo "A") fifth = (.ok info, fifth)) ∧
      Act.from (lineOfSight "N1" "N2") fifth = (.ok .yes, fifth) ∧
      fourth.survey = third.survey ∧ fifth.survey = fourth.survey := by
  intro start first second third fourth fifth
  have told : (Act.from (nodeInfo "A") start).1.map (·.id) = .ok "N1" := by decide +kernel
  have seen : (Act.from (lineOfSight "N2" "N1") second).1 = .ok .yes := by decide +kernel
  have unknown : (Act.from (nodeInfo "C") third).1.map (·.id) = .error (.missingNodeInfo "C") := by
    decide +kernel
  have unseen : (Act.from (lineOfSight "N1" "N3") fourth).1 =
      .error (.missingLineOfSight "N1" "N3") := by
    decide +kernel
  -- From here on the interview does not have to be computed again.
  clear_value start
  refine ⟨?_, ?_, ?_, ?_⟩
  · cases answer : (Act.from (nodeInfo "A") start).1 with
    | error error =>
      rw [answer] at told
      cases told
    | ok info =>
      rw [answer] at told
      have reached : first.Reaches fifth :=
        (((Reaches.start.asked (.node "B")).asked (.sight "N2" "N1")).asked (.node "C")).asked
          (.sight "N1" "N3")
      have found := (remembers start).1 "A" info first (Prod.ext answer rfl)
      exact ⟨info, Except.ok.inj told, found fifth reached⟩
  · have reached : third.Reaches fifth :=
      (Reaches.start.asked (.node "C")).asked (.sight "N1" "N3")
    have found := (remembers second).2.1 "N2" "N1" .yes third (Prod.ext seen rfl)
    exact (found fifth reached).2
  · cases answer : (Act.from (nodeInfo "C") third).1 with
    | error error => exact (remembers third).2.2.1 "C" error fourth (Prod.ext answer rfl)
    | ok info =>
      rw [answer] at unknown
      cases unknown
  · exact (remembers fourth).2.2.2 "N1" "N3" _ fifth (Prod.ext unseen rfl)

end RangeTest
