import RangeTest.Proofs.Export.Rows
import RangeTest.Proofs.FirstFailure

namespace RangeTest

/-- The CRC polynomial of a packet can be read, so that its frame can be told. -/
def Record.Framed (r : Record) : Prop :=
  ∃ width, Frame.crcBytes r.crcPoly = .ok width

/-- How a packet is refused whose CRC polynomial cannot be read. -/
def Record.Unframed (r : Record) (error : ExportError) : Prop :=
  ¬ r.Framed ∧ error = .invalidCrcPoly r.crcPoly

/-- The packets received over the link that a summary is about. -/
def Analysis.received (a : Analysis) (link : LinkSummary) : List Record :=
  a.correlator.packets .received link.receiver link.sender link.descriptor

theorem Row.ofPacket_decides {link : LinkSummary} {site : Option LinkSite} {lengthField : UInt32}
    (r : Record) (source : σ) :
    (MonadExcept.ofExcept (ofPacket link site lengthField r) : Act σ ExportError Row).Decides
      source r.Framed r.Unframed := by
  cases polynomial : Frame.polynomial? r.crcPoly with
  | none =>
    have refused : Frame.crcBytes r.crcPoly = .error (.invalidCrcPoly r.crcPoly) := by
      rw [Frame.crcBytes, polynomial]
      rfl
    have unframed : ¬ r.Framed := fun ⟨width, read⟩ => nomatch refused.symm.trans read
    have made : ofPacket link site lengthField r = .error (.invalidCrcPoly r.crcPoly) := by
      rw [ofPacket, Frame.ofRecord, Frame.size, refused]
      rfl
    rw [made]
    exact .of_error rfl unframed ⟨unframed, rfl⟩ fun _ => And.right
  | some n =>
    have read : Frame.crcBytes r.crcPoly = .ok (Frame.byteWidth n) := by
      rw [Frame.crcBytes, polynomial]
      rfl
    have made : ∃ row, ofPacket link site lengthField r = .ok row := by
      rw [ofPacket, Frame.ofRecord, Frame.size, read]
      exact ⟨_, rfl⟩
    obtain ⟨row, made⟩ := made
    rw [made]
    exact .of_ok rfl ⟨_, read⟩ fun _ unframed => unframed.1 ⟨_, read⟩

section
variable {a : Analysis} {resolver : Option (Resolver σ)} {lengthField : UInt32} {source : σ}

/-- The packets of a link matter only where the site can be looked up. -/
theorem Row.ofLink_decides {link : LinkSummary} {succeeds : Prop} {fails : ExportError → Prop}
    (known : (a.link? link).isSome)
    (resolved : (LinkSite.resolve? resolver link).Decides source succeeds fails) :
    (ofLink a resolver lengthField link).Decides source
      (succeeds ∧ ∀ r ∈ a.received link, r.Framed)
      (fun error => fails error ∨
        succeeds ∧ FirstFailure Record.Framed Record.Unframed (a.received link) error) := by
  obtain ⟨l, known⟩ := Option.isSome_iff_exists.1 known
  rw [ofLink, known, Analysis.received, Analysis.packets_of_link? known]
  exact resolved.bind fun site _ => .mapM fun r _ => ofPacket_decides r source

theorem Row.ofLink_plain_decides (link : LinkSummary) :
    (ofLink a (none : Option (Resolver σ)) lengthField link).Decides source
      (∀ r ∈ a.received link, r.Framed)
      (FirstFailure Record.Framed Record.Unframed (a.received link)) := by
  by_cases known : (a.link? link).isSome
  · have resolved : (LinkSite.resolve? (none : Option (Resolver σ)) link).Decides source True
        (fun _ => False) := .of_ok (Act.from_pure none source) trivial fun _ => id
    refine (ofLink_decides known resolved).congr ?_ fun error => ?_
    · exact and_iff_right trivial
    · rw [false_or, and_iff_right trivial]
  · rw [Option.not_isSome_iff_eq_none] at known
    rw [ofLink, known, Analysis.received, Analysis.packets_of_link?_none known]
    exact .of_ok rfl (List.forall_mem_nil _) fun _ => FirstFailure.not_nil

theorem Analysis.rows_decides {passes : LinkSummary → Prop}
    {fails : LinkSummary → ExportError → Prop}
    (each : ∀ link ∈ a.links, (Row.ofLink a resolver lengthField link).Decides source
      (passes link) (fails link)) :
    (a.rows resolver lengthField).Decides source
      (∀ link ∈ a.links.filter (0 < ·.received), passes link)
      (FirstFailure passes fails (a.links.filter (0 < ·.received))) := by
  rw [rows, bind_pure_comp]
  exact .map (.mapM fun link reported => each link (List.mem_filter.1 reported).1) List.flatten

/-- Without a survey rows can be made if and only if the frame of every packet can be told. -/
theorem Analysis.rows_plain_decides :
    (a.rows (none : Option (Resolver σ)) lengthField).Decides source
      (∀ r ∈ a.exported, r.Framed) (FirstFailure Record.Framed Record.Unframed a.exported) := by
  refine (rows_decides fun link _ => Row.ofLink_plain_decides link).congr ?_ fun error => ?_
  · exact List.forall_mem_flatMap.symm
  · exact FirstFailure.flatMap_iff.symm

end

end RangeTest
