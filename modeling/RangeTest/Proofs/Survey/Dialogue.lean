import RangeTest.Proofs.Survey.Course
import RangeTest.Proofs.Text.Lines

namespace RangeTest

/-- What is asked about a node, in this order. -/
def Question.ofNode : List Question :=
  [of "Node id: " Answer.IsText, of "Height: " Answer.IsNumber,
    of "Antenna type: " Answer.IsText, of "Temperature: " Answer.IsNumber,
    of "Position (x y z): " Answer.IsPosition]

/-- Lines that describe a node, one for each item. -/
def NodeInfo.ToldBy (lines : List String) (info : NodeInfo) : Prop :=
  ∃ id height antenna temperature position,
    lines = [id, height, antenna, temperature, position] ∧ Answer.IsText id info.id ∧
    Answer.IsNumber height info.height ∧ Answer.IsText antenna info.antenna ∧
    Answer.IsNumber temperature info.temperature ∧ Answer.IsPosition position info.position

/-- What an operator reads before the questions about a node. -/
def Console.announcement (address : String) : String :=
  "No node-info for link address " ++ address ++ ".\n"

/-- The questions about a node are put behind the announcement, and nothing else is done. -/
theorem Console.askNode_eq (address : String) : ∃ act,
    askNode address =
      (print ["No node-info for link address ", address, ".\n"] >>= fun _ => act) ∧
    Puts act Question.ofNode fun answers info => info.ToldBy answers := by
  refine ⟨_, rfl, ?_⟩
  refine .ask Answer.text?_eq_some_iff rfl fun id => ?_
  refine .ask Iff.rfl rfl fun height => ?_
  refine .ask Answer.text?_eq_some_iff rfl fun antenna => ?_
  refine .ask Iff.rfl rfl fun temperature => ?_
  refine .ask Answer.position?_eq_some_iff rfl fun position => ?_
  refine .pure ?_
  intro line₅ isPosition line₄ isTemperature line₃ isAntenna line₂ isHeight line₁ isId
  exact ⟨_, _, _, _, _, rfl, isId, isHeight, isAntenna, isTemperature, isPosition⟩

/-- The questions about a node take their course behind the announcement. -/
theorem Console.from_askNode {console : Console} {address printed : String}
    {lines answers rest : List String} (typed : console.input = lines.map .ok)
    (course : Question.Course Question.ofNode lines answers rest printed)
    (room : console.output.fits (announcement address ++ printed).utf8ByteSize) :
    ∃ outcome starved,
      Question.Outcome Question.ofNode answers (fun answers info => info.ToldBy answers) outcome ∧
      Act.from (askNode address) console = (.ok outcome,
        ⟨rest.map .ok, console.output.put (announcement address ++ printed), starved⟩) := by
  have announced : announcement address =
      String.join ["No node-info for link address ", address, ".\n"] :=
    (String.join_triple _ _ _).symm
  obtain ⟨act, split, puts⟩ := askNode_eq address
  rw [announced] at room ⊢
  rw [split]
  exact puts.from_print_bind typed course room

/-- An address that the tables lack is a matter for the operator. -/
theorem Interview.from_nodeInfo_of_unknown {interview : Interview} {address : String}
    (unknown : interview.survey.nodes.get? address = none) {outcome : Option NodeInfo}
    {console : Console}
    (asked : Act.from (Console.askNode address) interview.console = (.ok outcome, console)) :
    (Act.from (nodeInfo address) interview).1 =
        outcome.elim (.error (.missingNodeInfo address)) .ok ∧
      (Act.from (nodeInfo address) interview).2.console = console := by
  rw [nodeInfo, Act.from_bind, Act.from_get]
  dsimp only
  rw [unknown]
  dsimp only
  rw [Act.from_bind, talk, Act.from_zoom, asked]
  cases outcome with
  | none => exact ⟨rfl, rfl⟩
  | some info => exact ⟨rfl, rfl⟩

/-- The dialogue about a node comes to an end whatever text is left to be read, as long as there is
room for what it prints. The lines of that text take the five questions through their course. If all
five are answered, the node is as told, and what follows the fifth answer is left to be read. If the
text ends before that, the description is missing. -/
theorem Interview.nodeInfo_dialogue {interview : Interview} {address text : String}
    (unknown : interview.survey.nodes.get? address = none)
    (typed : interview.console.input = Text.rawLines text.toUTF8) :
    ∃ lines : List String, Text.rawLines text.toUTF8 = lines.map .ok ∧ String.join lines = text ∧
      (∃ answers rest printed, Question.Course Question.ofNode lines answers rest printed) ∧
      ∀ answers rest printed, Question.Course Question.ofNode lines answers rest printed →
        let output := Console.announcement address ++ printed
        interview.console.output.fits output.utf8ByteSize →
        let reached := Act.from (nodeInfo address) interview
        reached.2.console.input = rest.map .ok ∧
        reached.2.console.output = interview.console.output.put output ∧
        (answers.length = 5 ∧ (∃ info, reached.1 = .ok info ∧ info.ToldBy answers) ∨
          answers.length < 5 ∧ rest = [] ∧ reached.1 = .error (.missingNodeInfo address)) := by
  obtain ⟨lines, read, joined⟩ := Text.exists_rawLines_toUTF8 text
  refine ⟨lines, read, joined, Question.exists_course _ lines, ?_⟩
  intro answers rest printed course output room reached
  obtain ⟨outcome, starved, came, ran⟩ :=
    Console.from_askNode (typed.trans read) course room
  obtain ⟨result, console⟩ := from_nodeInfo_of_unknown unknown ran
  have left : reached.2.console = ⟨rest.map .ok, interview.console.output.put output, starved⟩ :=
    console
  rw [left]
  refine ⟨rfl, rfl, ?_⟩
  cases came with
  | told all tells => exact Or.inl ⟨all, _, result, tells⟩
  | silent fewer => exact Or.inr ⟨fewer, course.rest_eq_nil fewer, result⟩

/-- What an operator types who hesitates twice, and is asked about something else then. -/
def Console.hesitantText : String :=
  "N2\nabc\n1200\nwhip\n19.5\n3000 4000\n3000 4000 1200\nyes\n"

theorem Interview.nodeInfo_dialogue_hesitant :
    let interview : Interview :=
      ⟨.empty, .start (Text.rawLines Console.hesitantText.toUTF8) .unlimited⟩
    let reached := Act.from (nodeInfo "bb") interview
    interview.survey.nodes.get? "bb" = none ∧
    (∃ info, reached.1 = .ok info ∧ info.id = "N2" ∧ info.antenna = "whip") ∧
    reached.2.console.input = [.ok "yes\n"] ∧
    reached.2.console.output = Sink.unlimited.put ("No node-info for link address bb.\n" ++
      "Node id: Height: Invalid value 'abc', try again.\nHeight: Antenna type: Temperature: " ++
      "Position (x y z): Invalid value '3000 4000', try again.\nPosition (x y z): ") := by
  intro interview
  have typed : Text.rawLines Console.hesitantText.toUTF8 =
      ["N2\n", "abc\n", "1200\n", "whip\n", "19.5\n", "3000 4000\n", "3000 4000 1200\n",
        "yes\n"].map .ok := by decide
  have id : Answer.IsText "N2\n" "N2" := Answer.text?_eq_some_iff.1 (by decide)
  have noHeight : ¬ ∃ number, Answer.IsNumber "abc\n" number := by
    intro ⟨number, reads⟩
    have none : (FloatText.read? (Text.trim "abc\n".toList)).isNone := by decide
    rw [reads] at none
    cases none
  have height : ∃ number, Answer.IsNumber "1200\n" number :=
    Option.isSome_iff_exists.1 (by decide)
  have antenna : Answer.IsText "whip\n" "whip" := Answer.text?_eq_some_iff.1 (by decide)
  have temperature : ∃ number, Answer.IsNumber "19.5\n" number :=
    Option.isSome_iff_exists.1 (by decide)
  have noPosition : ¬ ∃ p, Answer.IsPosition "3000 4000\n" p := by
    intro ⟨p, x, y, z, words, _⟩
    have two : (Text.words "3000 4000\n".toList).length = 2 := by decide
    rw [words] at two
    cases two
  have position : ∃ p, Answer.IsPosition "3000 4000 1200\n" p := by
    have reads : (Answer.position? (Text.trim "3000 4000 1200\n".toList)).isSome := by decide
    obtain ⟨p, some⟩ := Option.isSome_iff_exists.1 reads
    exact ⟨p, Answer.position?_eq_some_iff.1 some⟩
  have course : Question.Course Question.ofNode _ _ ["yes\n"] _ :=
    .answered_cons ⟨_, id⟩ <| .refused_cons noHeight <| .answered_cons height <|
      .answered_cons ⟨_, antenna⟩ <| .answered_cons temperature <| .refused_cons noPosition <|
      .answered_cons position .done
  obtain ⟨lines, read, _, _, each⟩ := @nodeInfo_dialogue interview "bb" Console.hesitantText rfl rfl
  rw [typed] at read
  obtain rfl := List.map_injective_iff.2 (fun _ _ => Except.ok.inj) read
  have told := each _ _ _ course rfl
  generalize Act.from (nodeInfo "bb") interview = reached at told ⊢
  obtain ⟨left, output, ⟨_, info, found, tells⟩ | ⟨few, _⟩⟩ := told
  · refine ⟨rfl, ⟨info, found, ?_⟩, left, output.trans (congrArg _ (by decide +kernel))⟩
    obtain ⟨_, _, _, _, _, same, isId, _, isAntenna, _⟩ := tells
    cases same
    exact ⟨isId.2.trans id.2.symm, isAntenna.2.trans antenna.2.symm⟩
  · exact absurd few (by decide)

end RangeTest
