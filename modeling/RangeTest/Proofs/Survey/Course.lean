import RangeTest.Proofs.Delivery
import RangeTest.Proofs.Survey.Extension
import RangeTest.Proofs.Text.Words

namespace RangeTest

theorem String.join_triple (first second third : String) :
    String.join [first, second, third] = first ++ second ++ third := by
  simp [String.join_cons, String.append_assoc]

theorem Console.from_print {console : Console} {fragments : List String}
    (room : console.output.fits (String.join fragments).utf8ByteSize) :
    Act.from (print fragments) console =
      (.ok (), { console with output := console.output.put (String.join fragments) }) := by
  rw [print, Act.from_mapError, Act.from_zoom,
    (Sink.writeAll_writes fragments).from_of_room room]
  rfl

theorem Console.from_print_prompt {console : Console} {prompt : String}
    (room : console.output.fits prompt.utf8ByteSize) :
    Act.from (print [prompt]) console =
      (.ok (), { console with output := console.output.put prompt }) := by
  have alone : String.join [prompt] = prompt := by simp
  rw [← alone] at room
  rw [from_print room, alone]

/-- What a line that does not answer a question is met with. It is quoted without the blanks around
it. -/
def Question.complaint (line : String) : String :=
  "Invalid value '" ++ String.ofList (Text.trim line.toList) ++ "', try again.\n"

/-- What is printed while lines do not answer a question: for each of them the question and the
complaint. -/
def Question.insisting (prompt : String) (refused : List String) : String :=
  String.join (refused.map fun line => prompt ++ complaint line)

@[simp] theorem Question.insisting_nil (prompt : String) : insisting prompt [] = "" :=
  String.join_nil

theorem Question.insisting_cons (prompt line : String) (refused : List String) :
    insisting prompt (line :: refused) =
      prompt ++ complaint line ++ insisting prompt refused := by
  rw [insisting, List.map_cons, String.join_cons, insisting]

section
variable {console : Console} {prompt : String} {parse : List Char → Option α}

/-- A line that makes no sense costs a question and a complaint. -/
theorem Console.from_askLines_refused {line : String} {rest : List RawLine}
    (refuses : parse (Text.trim line.toList) = none)
    (room : console.output.fits (prompt ++ Question.complaint line).utf8ByteSize) :
    Act.from (askLines prompt parse (.ok line :: rest)) console =
      Act.from (askLines prompt parse rest)
        ⟨rest, console.output.put (prompt ++ Question.complaint line), console.starved⟩ := by
  have complaint : String.join
      ["Invalid value '", String.ofList (Text.trim line.toList), "', try again.\n"] =
        Question.complaint line :=
    String.join_triple _ _ _
  rw [askLines, Act.from_bind, from_print_prompt (Sink.fits_first room)]
  dsimp only
  rw [Act.from_bind, Act.from_modify]
  dsimp only
  rw [refuses]
  dsimp only
  rw [Act.from_bind, from_print]
  · dsimp only
    rw [complaint, Sink.put_append]
  · rw [complaint]
    exact Sink.fits_second room

/-- Lines that make no sense are used up one by one, and the same question stays open. -/
theorem Console.from_askLines_append {refused : List String} {rest : List RawLine}
    (typed : console.input = refused.map .ok ++ rest)
    (refuses : ∀ line ∈ refused, parse (Text.trim line.toList) = none)
    (room : console.output.fits (Question.insisting prompt refused).utf8ByteSize) :
    Act.from (askLines prompt parse (refused.map .ok ++ rest)) console =
      Act.from (askLines prompt parse rest)
        ⟨rest, console.output.put (Question.insisting prompt refused), console.starved⟩ := by
  induction refused generalizing console with
  | nil =>
    obtain ⟨input, output, starved⟩ := console
    obtain rfl : input = rest := typed
    rw [Question.insisting_nil, Sink.put_empty]
    rfl
  | cons line refused ih =>
    obtain ⟨first, others⟩ := List.forall_mem_cons.1 refuses
    rw [Question.insisting_cons] at room ⊢
    rw [List.map_cons, List.cons_append, from_askLines_refused first (Sink.fits_first room),
      ih rfl others (Sink.fits_second room),
      Sink.put_append console.output (prompt ++ Question.complaint line)]

/-- The first line that makes sense is the answer, and what is behind it stays. -/
theorem Console.from_ask_answered {refused behind : List String} {line : String} {value : α}
    (typed : console.input = (refused ++ line :: behind).map .ok)
    (refuses : ∀ line ∈ refused, parse (Text.trim line.toList) = none)
    (answers : parse (Text.trim line.toList) = some value)
    (room : console.output.fits (Question.insisting prompt refused ++ prompt).utf8ByteSize) :
    Act.from (ask prompt parse) console = (.ok (some value), ⟨behind.map .ok,
      console.output.put (Question.insisting prompt refused ++ prompt), console.starved⟩) := by
  rw [List.map_append] at typed
  rw [ask, Act.from_bind, Act.from_get]
  dsimp only
  rw [typed, from_askLines_append typed refuses (Sink.fits_first room), List.map_cons, askLines,
    Act.from_bind, from_print_prompt (Sink.fits_second room)]
  dsimp only
  rw [Act.from_bind, Act.from_modify]
  dsimp only
  rw [answers, Sink.put_append]
  rfl

/-- Where no line makes sense, all of them are used up. -/
theorem Console.from_ask_starved {refused : List String}
    (typed : console.input = refused.map .ok)
    (refuses : ∀ line ∈ refused, parse (Text.trim line.toList) = none)
    (room : console.output.fits (Question.insisting prompt refused ++ prompt).utf8ByteSize) :
    Act.from (ask prompt parse) console =
      (.ok none, ⟨[], console.output.put (Question.insisting prompt refused ++ prompt), true⟩) := by
  rw [← List.append_nil (refused.map _)] at typed
  rw [ask, Act.from_bind, Act.from_get]
  dsimp only
  rw [typed, from_askLines_append typed refuses (Sink.fits_first room), askLines, Act.from_bind,
    from_print_prompt (Sink.fits_second room), Sink.put_append]
  rfl

end

/-- A line that is not blank answers with its text, the blanks around it left out. -/
def Answer.IsText (line text : String) : Prop :=
  (∃ c ∈ line.toList, Text.isBlank c = false) ∧ text = .ofList (Text.trim line.toList)

/-- A line answers with the number that it is, the blanks around it left out. -/
def Answer.IsNumber (line : String) (number : Float) : Prop :=
  FloatText.read? (Text.trim line.toList) = some number

/-- A line of three words, each of which is a number, answers with a position. -/
def Answer.IsPosition (line : String) (p : Position) : Prop :=
  ∃ x y z, Text.words line.toList = [x, y, z] ∧ FloatText.read? x = some p.x ∧
    FloatText.read? y = some p.y ∧ FloatText.read? z = some p.z

theorem Answer.text?_eq_some_iff {line text : String} :
    text? (Text.trim line.toList) = some text ↔ IsText line text := by
  rw [text?, IsText]
  by_cases blank : Text.trim line.toList = []
  · have all := Text.trim_eq_nil_iff.1 blank
    rw [blank]
    constructor
    · exact fun impossible => nomatch impossible
    · rintro ⟨⟨c, member, visible⟩, _⟩
      rw [all c member] at visible
      cases visible
  · have visible : ∃ c ∈ line.toList, Text.isBlank c = false := by
      simpa using mt Text.trim_eq_nil_iff.2 blank
    rw [if_neg (by simpa using blank), Option.some.injEq]
    exact ⟨fun same => ⟨visible, same.symm⟩, fun both => both.2.symm⟩

theorem Answer.position?_eq_some_iff {line : String} {p : Position} :
    position? (Text.trim line.toList) = some p ↔ IsPosition line p := by
  rw [position?, Text.words_trim]
  constructor
  · intro read
    split at read
    · rename_i x y z numbers
      cases read
      have each := Option.mapM_eq_some_iff.1 numbers
      obtain ⟨_, _, first, behind, words⟩ := List.forall₂_cons_right_iff.1 each
      obtain ⟨_, _, second, last, rfl⟩ := List.forall₂_cons_right_iff.1 behind
      obtain ⟨_, _, third, none, rfl⟩ := List.forall₂_cons_right_iff.1 last
      obtain rfl := List.forall₂_nil_right_iff.1 none
      exact ⟨_, _, _, words, first, second, third⟩
    · cases read
  · rintro ⟨x, y, z, words, first, second, third⟩
    have numbers : (Text.words line.toList).mapM FloatText.read? = some [p.x, p.y, p.z] := by
      rw [words, Option.mapM_eq_some_iff]
      exact .cons first (.cons second (.cons third .nil))
    rw [numbers]

/-- A question for the operator, and which lines answer it. -/
structure Question where
  prompt : String
  Answered : String → Prop

def Question.of (prompt : String) (Is : String → α → Prop) : Question where
  prompt
  Answered line := ∃ value, Is line value

theorem Question.prompt_of (prompt : String) (Is : String → α → Prop) :
    (of prompt Is).prompt = prompt :=
  rfl

/-- The course that questions take while lines are typed: which lines are the answers, what is left
behind the last of them, and what is printed. A question stays open up to the first line that answers
it, or up to the end of the input. -/
inductive Question.Course :
    List Question → List String → List String → List String → String → Prop
  | done {lines : List String} : Course [] lines [] lines ""
  | starved {q : Question} {later : List Question} {refused : List String} :
      (∀ line ∈ refused, ¬ q.Answered line) →
      Course (q :: later) refused [] [] (insisting q.prompt refused ++ q.prompt)
  | answered {q : Question} {later : List Question} {refused behind answers rest : List String}
      {line printed : String} : (∀ line ∈ refused, ¬ q.Answered line) → q.Answered line →
      Course later behind answers rest printed →
      Course (q :: later) (refused ++ line :: behind) (line :: answers) rest
        (insisting q.prompt refused ++ q.prompt ++ printed)

section
variable {q : Question} {later : List Question} {lines answers rest : List String}
  {line printed : String}

theorem Question.Course.answered_cons (answered : q.Answered line)
    (course : Course later lines answers rest printed) :
    Course (q :: later) (line :: lines) (line :: answers) rest (q.prompt ++ printed) := by
  have nothing : insisting q.prompt [] ++ q.prompt = q.prompt := by simp
  exact nothing ▸ .answered (List.forall_mem_nil _) answered course

theorem Question.Course.refused_cons (refused : ¬ q.Answered line)
    (course : Course (q :: later) lines answers rest printed) :
    Course (q :: later) (line :: lines) answers rest
      (q.prompt ++ complaint line ++ printed) := by
  cases course with
  | starved unanswered =>
    rw [← String.append_assoc, ← insisting_cons]
    exact .starved (List.forall_mem_cons.2 ⟨refused, unanswered⟩)
  | answered unanswered answered course =>
    rw [← String.append_assoc, ← String.append_assoc, ← insisting_cons]
    exact .answered (List.forall_mem_cons.2 ⟨refused, unanswered⟩) answered course

end

/-- Whatever is typed, questions take a course. -/
theorem Question.exists_course (questions : List Question) (lines : List String) :
    ∃ answers rest printed, Course questions lines answers rest printed := by
  induction questions generalizing lines with
  | nil => exact ⟨_, _, _, .done⟩
  | cons q later ih =>
    induction lines with
    | nil => exact ⟨_, _, _, .starved (List.forall_mem_nil _)⟩
    | cons line lines others =>
      by_cases answered : q.Answered line
      · obtain ⟨_, _, _, course⟩ := ih lines
        exact ⟨_, _, _, .answered_cons answered course⟩
      · obtain ⟨_, _, _, course⟩ := others
        exact ⟨_, _, _, .refused_cons answered course⟩

/-- An input that ends before all questions are answered is used up. -/
theorem Question.Course.rest_eq_nil {questions : List Question} {lines answers rest : List String}
    {printed : String} (course : Course questions lines answers rest printed)
    (fewer : answers.length < questions.length) : rest = [] := by
  induction course with
  | done => cases fewer
  | starved => rfl
  | answered _ _ _ ih => exact ih (Nat.lt_of_succ_lt_succ fewer)

/-- What comes of questions that took their course: a value that the answers tell, or none where a
question was left without an answer. -/
inductive Question.Outcome (questions : List Question) (answers : List String)
    (Told : List String → α → Prop) : Option α → Prop
  | told {value : α} : answers.length = questions.length → Told answers value →
      Outcome questions answers Told (some value)
  | silent : answers.length < questions.length → Outcome questions answers Told none

/-- An action that puts some questions and does nothing else, as long as there is room for what it
prints. -/
def Console.Puts (act : Act Console ExportError (Option α)) (questions : List Question)
    (Told : List String → α → Prop) : Prop :=
  ∀ console ⦃lines answers rest printed⦄, console.input = lines.map .ok →
    Question.Course questions lines answers rest printed →
    console.output.fits printed.utf8ByteSize →
    ∃ outcome starved, Question.Outcome questions answers Told outcome ∧
      Act.from act console = (.ok outcome, ⟨rest.map .ok, console.output.put printed, starved⟩)

theorem Console.Puts.pure {Told : List String → α → Prop} {value : α} (told : Told [] value) :
    Puts (pure (some value)) [] Told := by
  intro console lines answers rest printed typed course room
  cases course with
  | done =>
    refine ⟨_, console.starved, .told rfl told, ?_⟩
    rw [Act.from_pure, Sink.put_empty, ← typed]

/-- A question is put in front of others, which are told with its answer in mind. -/
theorem Console.Puts.ask {prompt : String} {parse : List Char → Option α}
    {Is : String → α → Prop} {next : Option α → Act Console ExportError (Option β)}
    {later : List Question} {Told : List String → β → Prop}
    (reads : ∀ {line value}, parse (Text.trim line.toList) = some value ↔ Is line value)
    (silent : next none = Pure.pure none)
    (others : ∀ value, Puts (next (some value)) later fun more told =>
      ∀ line, Is line value → Told (line :: more) told) :
    Puts (ask prompt parse >>= next) (.of prompt Is :: later) Told := by
  have refuses {refused : List String}
      (unanswered : ∀ line ∈ refused, ¬ (Question.of prompt Is).Answered line) :
      ∀ line ∈ refused, parse (Text.trim line.toList) = none := by
    intro line member
    cases sense : parse (Text.trim line.toList) with
    | none => rfl
    | some value => exact absurd ⟨value, reads.1 sense⟩ (unanswered line member)
  intro console lines answers rest printed typed course room
  rw [Act.from_bind]
  cases course with
  | starved unanswered =>
    rw [Question.prompt_of] at room ⊢
    refine ⟨none, true, .silent (Nat.succ_pos _), ?_⟩
    rw [from_ask_starved typed (refuses unanswered) room]
    dsimp only
    rw [silent, Act.from_pure]
    rfl
  | answered unanswered answered course =>
    obtain ⟨value, isAnswer⟩ := answered
    rw [Question.prompt_of] at room ⊢
    rw [from_ask_answered typed (refuses unanswered) (reads.2 isAnswer) (Sink.fits_first room)]
    obtain ⟨outcome, starved, came, ran⟩ :=
      others value ⟨_, _, console.starved⟩ rfl course (Sink.fits_second room)
    refine ⟨outcome, starved, ?_, ?_⟩
    · cases came with
      | told all tells =>
        exact .told (congrArg Nat.succ all) (tells _ isAnswer)
      | silent fewer => exact .silent (Nat.succ_lt_succ fewer)
    · rw [Sink.put_append console.output (Question.insisting prompt _ ++ prompt)]
      exact ran

/-- Something is printed in front of the questions. -/
theorem Console.Puts.from_print_bind {act : Act Console ExportError (Option α)}
    {questions : List Question} {Told : List String → α → Prop} (puts : Puts act questions Told)
    {console : Console} {fragments lines answers rest : List String} {printed : String}
    (typed : console.input = lines.map .ok)
    (course : Question.Course questions lines answers rest printed)
    (room : console.output.fits (String.join fragments ++ printed).utf8ByteSize) :
    ∃ outcome starved, Question.Outcome questions answers Told outcome ∧
      Act.from (print fragments >>= fun _ => act) console = (.ok outcome,
        ⟨rest.map .ok, console.output.put (String.join fragments ++ printed), starved⟩) := by
  rw [Act.from_bind, from_print (Sink.fits_first room), Sink.put_append]
  exact puts ⟨_, _, console.starved⟩ typed course (Sink.fits_second room)

end RangeTest
