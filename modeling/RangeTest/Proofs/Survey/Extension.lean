import RangeTest.Proofs.Act
import RangeTest.Survey.Dialogue

namespace RangeTest

theorem NodeTable.insert_of_absent {t : NodeTable} {address : String} {info : NodeInfo}
    (absent : t.get? address = none) :
    t.insert address info = .ok ⟨t.entries ++ [(address, info)]⟩ := by
  rw [insert, absent]
  rfl

theorem SightTable.insert_of_absent {t : SightTable} {idA idB : String} {flag : LineOfSight}
    (absent : t.get? idA idB = none) :
    t.insert idA idB flag = .ok ⟨t.entries ++ [(pair idA idB, flag)]⟩ := by
  rw [insert, absent]
  rfl

theorem NodeTable.get?_append {t : NodeTable} {address sought : String} {info : NodeInfo} :
    (NodeTable.mk (t.entries ++ [(address, info)])).get? sought =
      (t.get? sought).or (if address = sought then some info else none) := by
  rw [get?, List.find?_append, Option.map_or, get?]
  by_cases here : address = sought <;> simp [here]

theorem NodeTable.get?_append_eq_some_iff {t : NodeTable} {address : String}
    (absent : t.get? address = none) (info : NodeInfo) (sought : String) (found : NodeInfo) :
    (NodeTable.mk (t.entries ++ [(address, info)])).get? sought = some found ↔
      t.get? sought = some found ∨ sought = address ∧ found = info := by
  rw [get?_append]
  by_cases here : address = sought
  · subst here
    simp [absent, eq_comm]
  · have other : ¬ sought = address := fun same => here same.symm
    simp [here, other]

theorem SightTable.get?_append {t : SightTable} {key : String × String} {idA idB : String}
    {flag : LineOfSight} :
    (SightTable.mk (t.entries ++ [(key, flag)])).get? idA idB =
      (t.get? idA idB).or (if key = pair idA idB then some flag else none) := by
  rw [get?, List.find?_append, Option.map_or, get?]
  by_cases here : key = pair idA idB <;> simp [here]

/-- A later state of a survey: its tables begin with the entries of the earlier one. -/
structure Survey.Extends (s later : Survey) : Prop where
  nodes : s.nodes.entries <+: later.nodes.entries
  sights : s.sights.entries <+: later.sights.entries

theorem Survey.Extends.refl (s : Survey) : s.Extends s :=
  ⟨List.prefix_refl _, List.prefix_refl _⟩

theorem Survey.Extends.trans {s middle later : Survey} (first : s.Extends middle)
    (second : middle.Extends later) : s.Extends later :=
  ⟨first.nodes.trans second.nodes, first.sights.trans second.sights⟩

theorem Survey.Extends.get?_nodes {s later : Survey} (extended : s.Extends later)
    {address : String} {info : NodeInfo} (known : s.nodes.get? address = some info) :
    later.nodes.get? address = some info := by
  obtain ⟨entry, found, rfl⟩ := Option.map_eq_some_iff.1 known
  exact Option.map_eq_some_iff.2 ⟨entry, extended.nodes.find?_eq_some found, rfl⟩

theorem Survey.Extends.get?_sights {s later : Survey} (extended : s.Extends later)
    {idA idB : String} {flag : LineOfSight} (known : s.sights.get? idA idB = some flag) :
    later.sights.get? idA idB = some flag := by
  obtain ⟨entry, found, rfl⟩ := Option.map_eq_some_iff.1 known
  exact Option.map_eq_some_iff.2 ⟨entry, extended.sights.find?_eq_some found, rfl⟩

/-- The survey with one more node. -/
def Survey.noteNode (s : Survey) (address : String) (info : NodeInfo) : Survey :=
  { s with nodes := ⟨s.nodes.entries ++ [(address, info)]⟩ }

/-- The survey with one more line of sight. -/
def Survey.noteSight (s : Survey) (idA idB : String) (flag : LineOfSight) : Survey :=
  { s with sights := ⟨s.sights.entries ++ [(SightTable.pair idA idB, flag)]⟩ }

theorem Survey.extends_noteNode (s : Survey) (address : String) (info : NodeInfo) :
    s.Extends (s.noteNode address info) :=
  ⟨List.prefix_append _ _, List.prefix_refl _⟩

theorem Survey.extends_noteSight (s : Survey) (idA idB : String) (flag : LineOfSight) :
    s.Extends (s.noteSight idA idB flag) :=
  ⟨List.prefix_refl _, List.prefix_append _ _⟩

/-- How a lookup ends that may turn to the operator. Either the tables know the value, or the
operator tells it and it is noted down, or there is no answer and the tables stay as they are. -/
inductive Interview.Settled (interview : Interview) (known : Option α)
    (asked : Except ExportError (Option α) × Console) (noted : α → Survey) :
    Except ExportError α × Interview → Prop
  | known {value : α} : known = some value →
      Settled interview known asked noted (.ok value, interview)
  | learned {value : α} {console : Console} : known = none → asked = (.ok (some value), console) →
      Settled interview known asked noted (.ok value, ⟨noted value, console⟩)
  | refused {error : ExportError} : known = none → (∀ value, asked.1 ≠ .ok (some value)) →
      Settled interview known asked noted (.error error, ⟨interview.survey, asked.2⟩)

section
variable (interview : Interview)

theorem Interview.talk_settled {ask : Act Console ExportError (Option α)}
    {next : Option α → Act Interview ExportError α} {missing : ExportError} {noted : α → Survey}
    (unanswered : next none = throw missing)
    (answered : ∀ value console,
      Act.from (next (some value)) ⟨interview.survey, console⟩ =
        (.ok value, ⟨noted value, console⟩)) :
    interview.Settled none (Act.from ask interview.console) noted
      (Act.from (talk ask >>= next) interview) := by
  rw [Act.from_bind, talk, Act.from_zoom]
  obtain ⟨outcome, console⟩ := Act.from ask interview.console
  cases outcome with
  | error error => exact .refused rfl nofun
  | ok answer =>
    dsimp only
    cases answer with
    | none =>
      rw [unanswered, Act.from_throw]
      exact .refused rfl nofun
    | some value =>
      rw [answered]
      exact .learned rfl rfl

theorem Interview.nodeInfo_settled (address : String) :
    interview.Settled (interview.survey.nodes.get? address)
      (Act.from (Console.askNode address) interview.console) (interview.survey.noteNode address)
      (Act.from (nodeInfo address) interview) := by
  rw [nodeInfo, Act.from_bind, Act.from_get]
  dsimp only
  cases known : interview.survey.nodes.get? address with
  | some info => exact .known rfl
  | none =>
    refine talk_settled interview rfl fun info console => ?_
    rw [Act.from_bind, Act.from_modify]
    dsimp only
    rw [NodeTable.insert_of_absent known]
    rfl

theorem Interview.lineOfSight_settled (idA idB : String) :
    interview.Settled (interview.survey.sights.get? idA idB)
      (Act.from (Console.askSight idA idB) interview.console)
      (interview.survey.noteSight idA idB) (Act.from (lineOfSight idA idB) interview) := by
  rw [lineOfSight, Act.from_bind, Act.from_get]
  dsimp only
  cases known : interview.survey.sights.get? idA idB with
  | some flag => exact .known rfl
  | none =>
    refine talk_settled interview rfl fun flag console => ?_
    rw [Act.from_bind, Act.from_modify]
    dsimp only
    rw [SightTable.insert_of_absent known]
    rfl

end

/-- What is asked of a survey. -/
inductive Survey.Query where
  | node (address : String)
  | sight (idA idB : String)

/-- What a question leaves behind, answered or not. -/
def Interview.after (interview : Interview) : Survey.Query → Interview
  | .node address => (Act.from (nodeInfo address) interview).2
  | .sight idA idB => (Act.from (lineOfSight idA idB) interview).2

def Interview.run (interview : Interview) (queries : List Survey.Query) : Interview :=
  queries.foldl after interview

theorem Interview.Settled.extends {interview : Interview} {known : Option α}
    {asked : Except ExportError (Option α) × Console} {noted : α → Survey}
    {reached : Except ExportError α × Interview}
    (settled : interview.Settled known asked noted reached)
    (grown : ∀ value, interview.survey.Extends (noted value)) :
    interview.survey.Extends reached.2.survey := by
  cases settled with
  | known _ => exact .refl _
  | learned _ _ => exact grown _
  | refused _ _ => exact .refl _

theorem Interview.extends_after (interview : Interview) (query : Survey.Query) :
    interview.survey.Extends (interview.after query).survey := by
  cases query with
  | node address =>
    exact (interview.nodeInfo_settled address).extends (interview.survey.extends_noteNode address)
  | sight idA idB =>
    exact (interview.lineOfSight_settled idA idB).extends
      (interview.survey.extends_noteSight idA idB)

theorem Interview.extends_run (interview : Interview) (queries : List Survey.Query) :
    interview.survey.Extends (interview.run queries).survey := by
  induction queries generalizing interview with
  | nil => exact .refl _
  | cons query queries ih => exact (interview.extends_after query).trans (ih _)

end RangeTest
