import RangeTest.Proofs.Export.Consistency

namespace RangeTest

/-- What a survey lacks first about two nodes, of which the receiver is looked up before the
sender. -/
inductive Survey.Gap (survey : Survey) (receiver sender : String) : ExportError → Prop
  | receiver : survey.nodes.get? receiver = none →
      Gap survey receiver sender (.missingNodeInfo receiver)
  | sender {rx : NodeInfo} : survey.nodes.get? receiver = some rx →
      survey.nodes.get? sender = none → Gap survey receiver sender (.missingNodeInfo sender)
  | lineOfSight {rx tx : NodeInfo} : survey.nodes.get? receiver = some rx →
      survey.nodes.get? sender = some tx → survey.sights.get? rx.id tx.id = none →
      Gap survey receiver sender (.missingLineOfSight rx.id tx.id)

/-- A survey describes a link, and the frame of each of its packets can be told. -/
structure Analysis.Joinable (a : Analysis) (survey : Survey) (link : LinkSummary) : Prop where
  described : ∃ site, survey.Describes link.receiver link.sender site
  framed : ∀ r ∈ a.received link, r.Framed

/-- Why a link cannot be joined with a survey. The packets matter only if nothing is missing in the
survey. -/
inductive Analysis.Obstacle (a : Analysis) (survey : Survey) (link : LinkSummary) :
    ExportError → Prop
  | gap {error : ExportError} : survey.Gap link.receiver link.sender error →
      Obstacle a survey link error
  | frame {site : LinkSite} {error : ExportError} :
      survey.Describes link.receiver link.sender site →
      FirstFailure Record.Framed Record.Unframed (a.received link) error →
      Obstacle a survey link error

section
variable {survey : Survey} {receiver sender : String} {error other : ExportError}

theorem Survey.Gap.unique (gap : survey.Gap receiver sender error)
    (gap' : survey.Gap receiver sender other) : error = other := by
  cases gap with
  | receiver missing => cases gap' <;> simp_all
  | sender rx missing => cases gap' <;> simp_all
  | lineOfSight rx tx missing => cases gap' <;> simp_all

theorem Survey.Gap.not_described (gap : survey.Gap receiver sender error) :
    ¬ ∃ site, survey.Describes receiver sender site := by
  rintro ⟨site, described⟩
  cases gap with
  | receiver missing => exact absurd (missing.symm.trans described.rx) nofun
  | sender _ missing => exact absurd (missing.symm.trans described.tx) nofun
  | lineOfSight rx tx missing =>
    cases rx.symm.trans described.rx
    cases tx.symm.trans described.tx
    exact absurd (missing.symm.trans described.lineOfSight) nofun

/-- Two nodes are described unless something is missing. -/
theorem Survey.describes_or_gap (survey : Survey) (receiver sender : String) :
    (∃ site, survey.Describes receiver sender site) ∨
      ∃ error, survey.Gap receiver sender error := by
  cases rx : survey.nodes.get? receiver with
  | none => exact Or.inr ⟨_, .receiver rx⟩
  | some rxInfo =>
    cases tx : survey.nodes.get? sender with
    | none => exact Or.inr ⟨_, .sender rx tx⟩
    | some txInfo =>
      cases seen : survey.sights.get? rxInfo.id txInfo.id with
      | none => exact Or.inr ⟨_, .lineOfSight rx tx seen⟩
      | some flag =>
        exact Or.inl ⟨⟨rxInfo, txInfo, rxInfo.position.distance txInfo.position, flag⟩,
          rx, tx, seen, rfl⟩

end

section
variable {survey : Survey} {link : LinkSummary}

theorem LinkSite.from_resolve_strict {site : LinkSite}
    (described : survey.Describes link.receiver link.sender site) :
    Act.from (resolve .strict link) survey = (.ok site, survey) := by
  obtain ⟨rx, tx, lineOfSight, distance⟩ := described
  rw [← Survey.nodeInfo_eq_ok_iff] at rx tx
  rw [← Survey.lineOfSight_eq_ok_iff] at lineOfSight
  simp only [resolve, Act.from_bind, Resolver.from_strict_nodeInfo,
    Resolver.from_strict_lineOfSight, rx, tx, lineOfSight, ← distance]
  rfl

theorem LinkSite.from_resolve_strict_error {error : ExportError}
    (gap : survey.Gap link.receiver link.sender error) :
    Act.from (resolve .strict link) survey = (.error error, survey) := by
  cases gap with
  | receiver missing =>
    simp only [resolve, Act.from_bind, Resolver.from_strict_nodeInfo,
      Survey.nodeInfo_eq_error missing]
  | sender rx missing =>
    rw [← Survey.nodeInfo_eq_ok_iff] at rx
    simp only [resolve, Act.from_bind, Resolver.from_strict_nodeInfo, rx,
      Survey.nodeInfo_eq_error missing]
  | lineOfSight rx tx missing =>
    rw [← Survey.nodeInfo_eq_ok_iff] at rx tx
    simp only [resolve, Act.from_bind, Resolver.from_strict_nodeInfo,
      Resolver.from_strict_lineOfSight, rx, tx, Survey.lineOfSight_eq_error missing]

/-- The strict resolver fails with the gap in its tables, if there is one. -/
theorem LinkSite.resolve_strict_decides (survey : Survey) (link : LinkSummary) :
    (resolve .strict link).Decides survey
      (∃ site, survey.Describes link.receiver link.sender site)
      (survey.Gap link.receiver link.sender) := by
  obtain ⟨site, described⟩ | ⟨error, gap⟩ := survey.describes_or_gap link.receiver link.sender
  · exact .of_ok (from_resolve_strict described) ⟨site, described⟩
      fun _ gap => gap.not_described ⟨site, described⟩
  · exact .of_error (from_resolve_strict_error gap) gap.not_described gap
      fun _ gap' => gap'.unique gap

end

theorem Row.ofLink_strict_decides {a : Analysis} {survey : Survey} {lengthField : UInt32}
    {link : LinkSummary} (known : (a.link? link).isSome) :
    (ofLink a (some .strict) lengthField link).Decides survey
      (a.Joinable survey link) (a.Obstacle survey link) := by
  have resolved : (LinkSite.resolve? (some .strict) link).Decides survey _ _ :=
    (LinkSite.resolve_strict_decides survey link).map some
  refine (ofLink_decides known resolved).congr ?_ fun error => ?_
  · exact ⟨fun both => ⟨both.1, both.2⟩, fun joinable => ⟨joinable.described, joinable.framed⟩⟩
  · constructor
    · rintro (gap | ⟨⟨site, described⟩, failed⟩)
      · exact .gap gap
      · exact .frame described failed
    · intro obstacle
      cases obstacle with
      | gap gap => exact Or.inl gap
      | frame described failed => exact Or.inr ⟨⟨_, described⟩, failed⟩

/-- A table of an analysis can be joined with a survey if and only if every link with packets can.
Otherwise the error is what hinders the first link with packets that cannot be joined: the receiver
is missing, or else the sender, or else the way between them, or else it is the first packet whose
CRC polynomial cannot be read. Links without packets do not matter. Without a survey only the
polynomials do. -/
theorem Analysis.rows_decided {rx tx : LogReader} {a : Analysis}
    (success : (correlate rx tx).1 = .ok a) (lengthField : UInt32) :
    (∀ survey, (a.rows (some .strict) lengthField).Decides survey
        (∀ link ∈ a.links, 0 < link.received → a.Joinable survey link)
        (FirstFailure (fun link => 0 < link.received → a.Joinable survey link)
          (fun link error => 0 < link.received ∧ a.Obstacle survey link error) a.links)) ∧
      ∀ {σ : Type} (source : σ),
        (a.rows (none : Option (Resolver σ)) lengthField).Decides source
          (∀ r ∈ a.exported, r.Framed)
          (FirstFailure Record.Framed
            (fun r error => ¬ r.Framed ∧ error = .invalidCrcPoly r.crcPoly) a.exported) := by
  obtain ⟨_, _, _, _, correlated, summed⟩ := correlate_ok success
  have known (link : LinkSummary) (listed : link ∈ a.links) : (a.link? link).isSome :=
    isSome_link? (correlated ▸ .run _) (summed ▸ listed)
  refine ⟨fun survey => ?_, fun {σ} source => rows_plain_decides⟩
  refine (rows_decides fun link listed =>
    Row.ofLink_strict_decides (known link listed)).congr ?_ fun error => ?_
  · simp only [List.mem_filter, decide_eq_true_eq, and_imp]
  · rw [FirstFailure.filter_iff]
    simp only [decide_eq_true_eq]

/-- Two nodes of a site, whose surroundings are not described. -/
def Survey.unseen : Survey where
  nodes := ⟨[("A", ⟨"N1", 1.5, "dipole", 21, ⟨0, 0, 0⟩⟩), ("B", ⟨"N2", 2, "whip", 20, ⟨3, 4, 12⟩⟩)]⟩
  sights := .empty

/-- If only the way between the nodes is not described, then that is the error, and without a survey
there is none. -/
theorem Analysis.rows_decided_unseen :
    ∃ a, (correlate (.sample "rx" "A" [1]) (.sample "tx" "B" [1])).1 = .ok a ∧
      (Act.from (a.rows (some .strict) 1) .unseen).1 = .error (.missingLineOfSight "N1" "N2") ∧
      ∃ rows, (Act.from (a.rows (none : Option (Resolver Unit)) 1) ()).1 = .ok rows := by
  obtain ⟨a, success, correlated, summed⟩ := correlate_sample [1]
  have listed : a.links.map (fun link => (link.receiver, link.sender, link.received)) =
      [("A", "B", 1)] := by
    rw [summed, correlated]
    decide +kernel
  have exported : a.exported = [.sample 1 "A"] := by
    rw [Analysis.exported, summed, correlated]
    decide +kernel
  obtain ⟨link, single, fields⟩ := List.map_eq_singleton_iff.1 listed
  simp only [Prod.mk.injEq] at fields
  obtain ⟨receiver, sender, received⟩ := fields
  have gap : Survey.unseen.Gap link.receiver link.sender (.missingLineOfSight "N1" "N2") := by
    have rx : Survey.unseen.nodes.get? "A" = some _ := rfl
    have tx : Survey.unseen.nodes.get? "B" = some _ := rfl
    rw [receiver, sender]
    exact .lineOfSight rx tx rfl
  have width : Frame.crcBytes (Record.sample 1 "A").crcPoly = .ok 2 := by decide +kernel
  obtain ⟨strict, plain⟩ := rows_decided success 1
  refine ⟨a, success, ((strict .unseen).fails_iff _).2 ?_, (plain ()).succeeds_iff.2 ?_⟩
  · rw [single]
    exact .here ⟨received ▸ Nat.one_pos, .gap gap⟩
  · rw [exported]
    exact List.forall_mem_singleton.2 ⟨2, width⟩

end RangeTest
