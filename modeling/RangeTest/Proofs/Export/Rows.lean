import RangeTest.Export.Row
import RangeTest.Proofs.Act
import RangeTest.Proofs.Correlator.History
import RangeTest.Proofs.Record.Fields

namespace RangeTest

theorem Row.header_nodup : header.Nodup := by
  decide +kernel

/-- A row shows a record if every column of the log stands under its heading. -/
structure Row.Shows (row : Row) (r : Record) : Prop where
  width : row.length = header.length
  cells : ∀ column, row.cell? column.heading = some (String.ofList (r.field column))

theorem Row.shows_ofRecord (r : Record) (link : LinkSummary) (site : Option LinkSite)
    (frame : Frame) : (ofRecord r link site frame).Shows r where
  width := by simp only [ofRecord, header, List.length_cons, List.length_nil]
  cells column := by cases column <;> rfl

/-- A row was made of a record, whatever is known of its link and its frame. -/
inductive Row.MadeOf (row : Row) (r : Record) : Prop
  | intro (link : LinkSummary) (site : Option LinkSite) (frame : Frame) :
      row = ofRecord r link site frame → MadeOf row r

theorem Row.MadeOf.shows {row : Row} {r : Record} (made : row.MadeOf r) : row.Shows r := by
  obtain ⟨link, site, frame, rfl⟩ := made
  exact shows_ofRecord r link site frame

/-- What is read off the cells of a row by their headings. -/
def Row.record? (row : Row) : Except RecordFault Record :=
  (FieldReader.record none).run'
    (Column.all.map fun column => ((row.cell? column.heading).getD "").toList)

theorem Row.Shows.record?_eq {row : Row} {r : Record} (shown : row.Shows r) (filled : r.Filled) :
    row.record? = .ok { r with capturedAt := none } := by
  have columns : (Column.all.map fun column => ((row.cell? column.heading).getD "").toList) =
      Column.all.map r.field := by
    refine List.map_congr_left fun column _ => ?_
    rw [shown.cells column, Option.getD_some, String.toList_ofList]
  rw [record?, columns, StateT.run'_eq, FieldReader.record_fields none filled]
  rfl

/-- The packets that a table is made of: those received over the reported links, link by link. -/
def Analysis.exported (a : Analysis) : List Record :=
  (a.links.filter (0 < ·.received)).flatMap fun link =>
    a.correlator.packets .received link.receiver link.sender link.descriptor

theorem Analysis.packets_of_link? {a : Analysis} {link : LinkSummary} {l : Link}
    (known : a.link? link = some l) :
    a.correlator.packets .received link.receiver link.sender link.descriptor =
      l.received.packets link.descriptor := by
  obtain ⟨node, atNode, atLink⟩ := Option.bind_eq_some_iff.1 known
  rw [Correlator.packets, Correlator.nodeAt, atNode, Option.getD_some, Receiver.link, atLink,
    Option.getD_some]
  rfl

theorem Analysis.packets_of_link?_none {a : Analysis} {link : LinkSummary}
    (unknown : a.link? link = none) (side : Side) :
    a.correlator.packets side link.receiver link.sender link.descriptor = [] := by
  rw [link?] at unknown
  rw [Correlator.packets, Correlator.nodeAt]
  cases atNode : a.correlator.nodes.get? link.receiver with
  | none => cases side <;> rfl
  | some node =>
    rw [atNode, Option.bind_some] at unknown
    rw [Option.getD_some, Receiver.link, unknown]
    cases side <;> rfl

section
variable {a : Analysis} {resolver : Option (Resolver σ)} {lengthField : UInt32} {source after : σ}

/-- What the rows of a known link are made of. The survey is asked once for all of them, and nothing
else changes its state. -/
theorem Row.ofLink_ok {link : LinkSummary} {l : Link} {rows : List Row}
    (known : a.link? link = some l)
    (built : Act.from (ofLink a resolver lengthField link) source = (.ok rows, after)) :
    ∃ site, Act.from (LinkSite.resolve? resolver link) source = (.ok site, after) ∧
      List.Forall₂ (fun r row => ofPacket link site lengthField r = .ok row)
        (l.received.packets link.descriptor) rows := by
  rw [ofLink, known] at built
  obtain ⟨site, middle, resolved, built⟩ := Act.from_bind_ok_iff.1 built
  obtain ⟨rfl, made⟩ := Act.from_mapM_ofExcept_ok built
  exact ⟨site, resolved, made⟩

theorem Row.ofPacket_madeOf {link : LinkSummary} {site : Option LinkSite} {r : Record} {row : Row}
    (made : ofPacket link site lengthField r = .ok row) : row.MadeOf r := by
  rw [ofPacket] at made
  cases framed : Frame.ofRecord r lengthField with
  | error error =>
    rw [framed] at made
    cases made
  | ok frame =>
    rw [framed] at made
    cases made
    exact ⟨link, site, frame, rfl⟩

theorem Row.ofLink_madeOf {link : LinkSummary} {rows : List Row}
    (built : Act.from (ofLink a resolver lengthField link) source = (.ok rows, after)) :
    List.Forall₂ (fun r row => row.MadeOf r)
      (a.correlator.packets .received link.receiver link.sender link.descriptor) rows := by
  cases known : a.link? link with
  | none =>
    rw [ofLink, known] at built
    cases built
    rw [Analysis.packets_of_link?_none known]
    exact .nil
  | some l =>
    obtain ⟨site, _, made⟩ := ofLink_ok known built
    rw [Analysis.packets_of_link? known]
    exact made.imp fun _ _ => ofPacket_madeOf

/-- The rows of a table are made of the exported packets, one row of each and in their order. -/
theorem Analysis.rows_madeOf {rows : List Row}
    (built : Act.from (a.rows resolver lengthField) source = (.ok rows, after)) :
    List.Forall₂ (fun r row => row.MadeOf r) a.exported rows := by
  obtain ⟨groups, _, grouped, built⟩ := Act.from_bind_ok_iff.1 built
  cases built
  have each : List.Forall₂ (fun link group => List.Forall₂ (fun r row => Row.MadeOf row r)
      (a.correlator.packets .received link.receiver link.sender link.descriptor) group)
      (a.links.filter (0 < ·.received)) groups := by
    refine (Act.from_mapM_ok grouped).imp fun link group => ?_
    rintro ⟨_, _, made⟩
    exact Row.ofLink_madeOf made
  have made := List.rel_flatten (List.forall₂_map_left_iff.2 each)
  rwa [← List.flatMap_def] at made

/-- The rows of a table show the exported packets, one row for each and in their order. -/
theorem Analysis.rows_show {rows : List Row}
    (built : Act.from (a.rows resolver lengthField) source = (.ok rows, after)) :
    List.Forall₂ (fun r row => row.Shows r) a.exported rows :=
  (rows_madeOf built).imp fun _ _ => Row.MadeOf.shows

end

end RangeTest
