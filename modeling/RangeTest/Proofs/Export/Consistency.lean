import RangeTest.Proofs.Binary64.Difference
import RangeTest.Proofs.Export.Coverage
import RangeTest.Proofs.Export.Interactive

namespace RangeTest

theorem Position.distance_comm (a b : Position) : a.distance b = b.distance a := by
  simp only [distance, squaredDistance]
  rw [sub_mul_sub_comm a.x, sub_mul_sub_comm a.y, sub_mul_sub_comm a.z]

/-- The two ends of a link, in the columns of a table. -/
inductive LinkEnd where
  | rx
  | tx
  deriving DecidableEq, Repr

def LinkEnd.addressHeading : LinkEnd → String
  | rx => "Rx_link_addr"
  | tx => "Tx_link_addr"

/-- The headings over what a survey says about the node at one end. -/
def LinkEnd.siteHeadings : LinkEnd → List String
  | rx => ["Rx_node_id", "Rx_height", "Rx_antenna", "Rx_temperature"]
  | tx => ["Tx_node_id", "Tx_height", "Tx_antenna", "Tx_temperature"]

def Row.address (row : Row) (e : LinkEnd) : Option String :=
  row.cell? e.addressHeading

def Row.site (row : Row) (e : LinkEnd) : List (Option String) :=
  e.siteHeadings.map row.cell?

/-- Rows that do not contradict each other about a node, at whichever end it stands, or about the
way between two nodes, in whichever direction it is taken. -/
structure Row.Consistent (rows : List Row) : Prop where
  nodes : ∀ row ∈ rows, ∀ other ∈ rows, ∀ e e' : LinkEnd,
    row.address e = other.address e' → row.site e = other.site e'
  ways : ∀ row ∈ rows, ∀ other ∈ rows,
    row.address .rx = other.address .tx → row.address .tx = other.address .rx →
      row.cell? "Is_line_of_sight" = other.cell? "Is_line_of_sight" ∧
        row.cell? "Distance_from_tx" = other.cell? "Distance_from_tx"

/-- What the tables of a survey say about two nodes. -/
structure Survey.Describes (survey : Survey) (receiver sender : String) (site : LinkSite) :
    Prop where
  rx : survey.nodes.get? receiver = some site.rx
  tx : survey.nodes.get? sender = some site.tx
  lineOfSight : survey.sights.get? site.rx.id site.tx.id = some site.lineOfSight
  distance : site.distance = site.rx.position.distance site.tx.position

/-- A row that joins a packet with what a survey says about its nodes. -/
inductive Row.Joins (survey : Survey) : Row → Prop
  | intro {r : Record} {link : LinkSummary} {site : LinkSite} {frame : Frame} :
      survey.Describes r.rxLinkAddr r.txLinkAddr site →
      Joins survey (ofRecord r link (some site) frame)

def Record.address (r : Record) : LinkEnd → String
  | .rx => r.rxLinkAddr
  | .tx => r.txLinkAddr

def LinkSite.node (site : LinkSite) : LinkEnd → NodeInfo
  | .rx => site.rx
  | .tx => site.tx

/-- The cells that tell about a node. -/
def NodeInfo.cells (info : NodeInfo) : List (Option String) :=
  [some info.id, some (FloatText.table info.height), some info.antenna,
    some (FloatText.table info.temperature)]

section
variable {r : Record} {link : LinkSummary} {site : LinkSite} {frame : Frame} {survey : Survey}

theorem Row.address_ofRecord (e : LinkEnd) :
    (ofRecord r link (some site) frame).address e = some (r.address e) := by
  cases e with
  | rx => exact congrArg some String.ofList_toList
  | tx => exact congrArg some String.ofList_toList

theorem Row.site_ofRecord (e : LinkEnd) :
    (ofRecord r link (some site) frame).site e = (site.node e).cells := by
  cases e <;> rfl

theorem Survey.Describes.node (described : survey.Describes r.rxLinkAddr r.txLinkAddr site)
    (e : LinkEnd) : survey.nodes.get? (r.address e) = some (site.node e) := by
  cases e with
  | rx => exact described.rx
  | tx => exact described.tx

theorem Row.consistent_of_joins {rows : List Row} (joined : ∀ row ∈ rows, row.Joins survey) :
    Consistent rows where
  nodes row member other memberToo e e' same := by
    obtain ⟨described⟩ := joined row member
    obtain ⟨describedToo⟩ := joined other memberToo
    rw [address_ofRecord, address_ofRecord, Option.some.injEq] at same
    have info := (described.node e).symm.trans (same ▸ describedToo.node e')
    rw [site_ofRecord, site_ofRecord, Option.some.inj info]
  ways row member other memberToo here there := by
    obtain @⟨r, link, site, frame, described⟩ := joined row member
    obtain @⟨r', link', site', frame', describedToo⟩ := joined other memberToo
    rw [address_ofRecord, address_ofRecord, Option.some.injEq] at here there
    have rx : site.rx = site'.tx :=
      Option.some.inj ((described.node .rx).symm.trans (here ▸ describedToo.node .tx))
    have tx : site.tx = site'.rx :=
      Option.some.inj ((described.node .tx).symm.trans (there ▸ describedToo.node .rx))
    have flag : site.lineOfSight = site'.lineOfSight := by
      refine Option.some.inj (described.lineOfSight.symm.trans ?_)
      rw [SightTable.get?_comm, rx, tx, describedToo.lineOfSight]
    have distance : site.distance = site'.distance := by
      rw [described.distance, describedToo.distance, Position.distance_comm, rx, tx]
    exact ⟨congrArg (fun flag : LineOfSight => some flag.text) flag,
      congrArg (fun distance => some (FloatText.table distance)) distance⟩

end

section
variable {survey after : Survey} {link : LinkSummary} {lengthField : UInt32} {a : Analysis}
  {history : List Intake} {rows : List Row}

/-- What the strict resolver finds is what the tables say. -/
theorem LinkSite.resolve_strict {site : LinkSite}
    (resolved : Act.from (resolve .strict link) survey = (.ok site, after)) :
    survey.Describes link.receiver link.sender site := by
  obtain ⟨rx, middle, first, resolved⟩ := Act.from_bind_ok_iff.1 resolved
  obtain ⟨tx, last, second, resolved⟩ := Act.from_bind_ok_iff.1 resolved
  obtain ⟨flag, final, third, resolved⟩ := Act.from_bind_ok_iff.1 resolved
  rw [Resolver.from_strict_nodeInfo, Prod.mk.injEq, Survey.nodeInfo_eq_ok_iff] at first second
  obtain ⟨knownRx, rfl⟩ := first
  obtain ⟨knownTx, rfl⟩ := second
  rw [Resolver.from_strict_lineOfSight, Prod.mk.injEq, Survey.lineOfSight_eq_ok_iff] at third
  obtain ⟨seen, rfl⟩ := third
  cases resolved
  exact ⟨knownRx, knownTx, seen, rfl⟩

theorem Row.ofLink_joins (correlated : a.correlator = .run history)
    (built : Act.from (ofLink a (some .strict) lengthField link) survey = (.ok rows, after)) :
    ∀ row ∈ rows, row.Joins survey := by
  cases known : a.link? link with
  | none =>
    rw [ofLink, known] at built
    cases built
    exact List.forall_mem_nil _
  | some l =>
    obtain ⟨joined, resolved, made⟩ := ofLink_ok known built
    rw [LinkSite.resolve?, map_eq_pure_bind] at resolved
    obtain ⟨site, _, found, resolved⟩ := Act.from_bind_ok_iff.1 resolved
    cases resolved
    have described := LinkSite.resolve_strict found
    intro row member
    obtain ⟨r, kept, written⟩ := exists_of_forall₂ made.flip row member
    rw [← Analysis.packets_of_link? known, correlated] at kept
    obtain ⟨rx, tx, -⟩ := (Correlator.WellFormed.run history).belongs kept
    obtain ⟨frame, _, shown⟩ := Except.bind_eq_ok_iff.1 written
    cases shown
    exact .intro (rx.symm ▸ tx.symm ▸ described)

theorem Analysis.rows_joins (correlated : a.correlator = .run history)
    (built : Act.from (a.rows (some .strict) lengthField) survey = (.ok rows, after)) :
    ∀ row ∈ rows, row.Joins survey := by
  obtain ⟨groups, middle, grouped, built⟩ := Act.from_bind_ok_iff.1 built
  cases built
  have steady (link : LinkSummary) (before last : Survey) (group : List Row)
      (made : Act.from (Row.ofLink a (some .strict) lengthField link) before = (.ok group, last)) :
      last = before := ((Row.ofLink_agrees a lengthField link).quiet (.start [] .unlimited) made).1
  obtain ⟨-, each⟩ := Act.from_mapM_ok_of_steady steady grouped
  intro row member
  obtain ⟨group, inside, here⟩ := List.mem_flatten.1 member
  obtain ⟨link, _, made⟩ := exists_of_forall₂ each.flip group inside
  exact Row.ofLink_joins correlated made row here

end

/-- In no table that is joined with a survey do two rows contradict each other, whether or not an
operator helps with the survey. -/
theorem Analysis.rows_consistent (a : Analysis) {history : List Intake}
    (correlated : a.correlator = .run history) (lengthField : UInt32) :
    (∀ survey rows after,
      Act.from (a.rows (some .strict) lengthField) survey = (.ok rows, after) →
        Row.Consistent rows) ∧
      ∀ interview rows after,
        Act.from (a.rows (some .interactive) lengthField) interview = (.ok rows, after) →
          Row.Consistent rows := by
  constructor
  · intro survey rows after built
    exact Row.consistent_of_joins (rows_joins correlated built)
  · intro interview rows after built
    -- The tables as the operator leaves them account for all rows.
    have replay := ((rows_agrees a lengthField).replayed built).2 (.refl _)
    exact Row.consistent_of_joins (rows_joins correlated replay)

/-- What is known where `A` and `B` received one packet of each other. -/
def Analysis.ofExchange : Analysis :=
  let correlator := Correlator.run (Intake.logs
    [.sample 1 "A", { Record.sample 1 "B" with txLinkAddr := "A" }]
    [.sample 1 "B", { Record.sample 1 "A" with txLinkAddr := "A" }])
  { correlator, rxCounters := { matched := 2 }, txCounters := { matched := 2 },
    links := correlator.summaries }

/-- The operator is asked about either node and about the way between them once. -/
theorem Analysis.rows_consistent_exchange : ∃ rows after,
    Act.from (ofExchange.rows (some .interactive) 1) ⟨.empty, .answering⟩ = (.ok rows, after) ∧
      rows.map (fun row => (row.address .rx, row.address .tx)) =
        [(some "A", some "B"), (some "B", some "A")] ∧
      rows.map (·.cell? "Distance_from_tx") = [some "13", some "13"] ∧
      Row.Consistent rows := by
  have cells : (Act.from (ofExchange.rows (some .interactive) 1)
      ⟨.empty, .answering⟩).1.toOption.map (fun rows =>
        (rows.map (fun row => (row.address .rx, row.address .tx)),
          rows.map (·.cell? "Distance_from_tx"))) =
      some ([(some "A", some "B"), (some "B", some "A")], [some "13", some "13"]) := by
    decide +kernel
  have consistent := (rows_consistent ofExchange rfl 1).2 ⟨.empty, .answering⟩
  cases built : Act.from (ofExchange.rows (some .interactive) 1) ⟨.empty, .answering⟩ with
  | mk outcome after =>
    rw [built] at cells
    cases outcome with
    | error error => cases cells
    | ok rows =>
      obtain ⟨addresses, distances⟩ := Prod.mk.inj (Option.some.inj cells)
      exact ⟨rows, after, rfl, addresses, distances, consistent rows after built⟩

end RangeTest
