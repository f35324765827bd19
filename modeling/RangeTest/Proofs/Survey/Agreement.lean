import RangeTest.Proofs.Survey.Extension

namespace RangeTest

/-- An action with an operator agrees with one on tables alone. What it comes to with the operator's
help, the other comes to on the tables that are left behind and on all later ones; and where the
other succeeds, the operator is not asked. -/
structure Interview.Agrees (act : Act Interview ExportError α) (plain : Act Survey ExportError α) :
    Prop where
  replayed {interview after : Interview} {value : α} :
    Act.from act interview = (.ok value, after) → interview.survey.Extends after.survey ∧
      ∀ {later : Survey}, after.survey.Extends later → Act.from plain later = (.ok value, later)
  quiet {survey after : Survey} {value : α} (console : Console) :
    Act.from plain survey = (.ok value, after) →
      after = survey ∧ Act.from act ⟨survey, console⟩ = (.ok value, ⟨survey, console⟩)

theorem Survey.nodeInfo_eq_ok_iff {survey : Survey} {address : String} {info : NodeInfo} :
    survey.nodeInfo address = .ok info ↔ survey.nodes.get? address = some info := by
  rw [nodeInfo]
  cases survey.nodes.get? address <;> simp [pure, Except.pure]

theorem Survey.lineOfSight_eq_ok_iff {survey : Survey} {idA idB : String} {flag : LineOfSight} :
    survey.lineOfSight idA idB = .ok flag ↔ survey.sights.get? idA idB = some flag := by
  rw [lineOfSight]
  cases survey.sights.get? idA idB <;> simp [pure, Except.pure]

theorem Survey.nodeInfo_eq_error {survey : Survey} {address : String}
    (missing : survey.nodes.get? address = none) :
    survey.nodeInfo address = .error (.missingNodeInfo address) := by
  rw [nodeInfo, missing]
  rfl

theorem Survey.lineOfSight_eq_error {survey : Survey} {idA idB : String}
    (missing : survey.sights.get? idA idB = none) :
    survey.lineOfSight idA idB = .error (.missingLineOfSight idA idB) := by
  rw [lineOfSight, missing]
  rfl

theorem Resolver.from_strict_nodeInfo (address : String) (survey : Survey) :
    Act.from (strict.nodeInfo address) survey = (survey.nodeInfo address, survey) := by
  rw [strict]
  dsimp only
  rw [Act.from_bind, Act.from_get]
  dsimp only
  rw [Act.from_ofExcept]

theorem Resolver.from_strict_lineOfSight (idA idB : String) (survey : Survey) :
    Act.from (strict.lineOfSight idA idB) survey = (survey.lineOfSight idA idB, survey) := by
  rw [strict]
  dsimp only
  rw [Act.from_bind, Act.from_get]
  dsimp only
  rw [Act.from_ofExcept]

section
variable {act : Act Interview ExportError α} {plain : Act Survey ExportError α}

theorem Interview.Agrees.ofExcept (result : Except ExportError α) :
    Agrees (MonadExcept.ofExcept result) (MonadExcept.ofExcept result) where
  replayed ran := by
    rw [Act.from_ofExcept] at ran
    cases ran
    exact ⟨.refl _, fun {later} _ => Act.from_ofExcept _ later⟩
  quiet console ran := by
    rw [Act.from_ofExcept] at ran
    cases ran
    exact ⟨rfl, Act.from_ofExcept _ _⟩

theorem Interview.Agrees.pure (value : α) : Agrees (pure value) (pure value) :=
  .ofExcept (.ok value)

theorem Interview.Agrees.bind (agrees : Agrees act plain)
    {next : α → Act Interview ExportError β} {follow : α → Act Survey ExportError β}
    (agree : ∀ value, Agrees (next value) (follow value)) :
    Agrees (act >>= next) (plain >>= follow) where
  replayed ran := by
    obtain ⟨value, middle, first, second⟩ := Act.from_bind_ok_iff.1 ran
    obtain ⟨grown, replay⟩ := agrees.replayed first
    obtain ⟨grownMore, replayMore⟩ := (agree value).replayed second
    -- The first action is replayed on the tables that the second one leaves as well.
    refine ⟨grown.trans grownMore, fun {later} extended => ?_⟩
    exact Act.from_bind_ok_iff.2 ⟨value, later, replay (grownMore.trans extended),
      replayMore extended⟩
  quiet console ran := by
    obtain ⟨value, middle, first, second⟩ := Act.from_bind_ok_iff.1 ran
    obtain ⟨rfl, asked⟩ := agrees.quiet console first
    obtain ⟨rfl, askedMore⟩ := (agree value).quiet console second
    exact ⟨rfl, Act.from_bind_ok_iff.2 ⟨value, _, asked, askedMore⟩⟩

theorem Interview.Agrees.map (agrees : Agrees act plain) (f : α → β) :
    Agrees (f <$> act) (f <$> plain) := by
  rw [map_eq_pure_bind, map_eq_pure_bind]
  exact agrees.bind fun value => .pure (f value)

/-- The tables that the operator helped with for one item are still there for the next. -/
theorem Interview.Agrees.mapM {f : α → Act Interview ExportError β}
    {plain : α → Act Survey ExportError β} (agree : ∀ item, Agrees (f item) (plain item))
    (items : List α) : Agrees (items.mapM f) (items.mapM plain) := by
  induction items with
  | nil => exact .pure []
  | cons item items ih =>
    rw [List.mapM_cons, List.mapM_cons]
    exact (agree item).bind fun result => ih.bind fun results => .pure (result :: results)

/-- A lookup agrees with the strict one if tables that grow keep what they know, and if they know
what is noted down. -/
theorem Interview.Agrees.of_settled (lookup : Survey → Option α) (missing : ExportError)
    (ask : Act Console ExportError (Option α)) (note : Survey → α → Survey)
    (settled : ∀ interview : Interview, interview.Settled (lookup interview.survey)
      (Act.from ask interview.console) (note interview.survey) (Act.from act interview))
    (strict : ∀ survey, Act.from plain survey =
      (match lookup survey with | some value => .ok value | none => .error missing, survey))
    (kept : ∀ {survey later value}, survey.Extends later → lookup survey = some value →
      lookup later = some value)
    (noted : ∀ {survey value}, lookup survey = none →
      survey.Extends (note survey value) ∧ lookup (note survey value) = some value) :
    Agrees act plain where
  replayed {interview after value} ran := by
    have known : interview.survey.Extends after.survey ∧ lookup after.survey = some value := by
      have settled := settled interview
      rw [ran] at settled
      cases settled with
      | known known => exact ⟨.refl _, known⟩
      | learned unknown _ => exact noted unknown
    refine ⟨known.1, fun {later} extended => ?_⟩
    rw [strict, kept extended known.2]
  quiet {survey after value} console ran := by
    rw [strict] at ran
    cases known : lookup survey with
    | none =>
      rw [known] at ran
      cases ran
    | some found =>
      rw [known] at ran
      cases ran
      refine ⟨rfl, ?_⟩
      have settled := settled ⟨survey, console⟩
      generalize Act.from act ⟨survey, console⟩ = reached at settled
      cases settled with
      | known same => rw [known] at same; cases same; rfl
      | learned unknown _ => rw [known] at unknown; cases unknown
      | refused unknown _ => rw [known] at unknown; cases unknown

theorem Interview.nodeInfo_agrees (address : String) :
    Agrees (Resolver.interactive.nodeInfo address) (Resolver.strict.nodeInfo address) := by
  refine .of_settled (·.nodes.get? address) (.missingNodeInfo address) (Console.askNode address)
    (·.noteNode address) (nodeInfo_settled · address) (fun survey => ?_)
    (fun extended => extended.get?_nodes) ?_
  · rw [Resolver.from_strict_nodeInfo, Survey.nodeInfo]
    cases survey.nodes.get? address <;> rfl
  · intro survey info unknown
    refine ⟨survey.extends_noteNode address info, ?_⟩
    rw [Survey.noteNode, NodeTable.get?_append, unknown, Option.none_or, if_pos rfl]

theorem Interview.lineOfSight_agrees (idA idB : String) :
    Agrees (Resolver.interactive.lineOfSight idA idB) (Resolver.strict.lineOfSight idA idB) := by
  refine .of_settled (·.sights.get? idA idB) (.missingLineOfSight idA idB)
    (Console.askSight idA idB) (·.noteSight idA idB) (lineOfSight_settled · idA idB)
    (fun survey => ?_) (fun extended => extended.get?_sights) ?_
  · rw [Resolver.from_strict_lineOfSight, Survey.lineOfSight]
    cases survey.sights.get? idA idB <;> rfl
  · intro survey flag unknown
    refine ⟨survey.extends_noteSight idA idB flag, ?_⟩
    rw [Survey.noteSight, SightTable.get?_append, unknown, Option.none_or, if_pos rfl]

end

end RangeTest
