import RangeTest.Export.Row
import RangeTest.Proofs.Lockstep
import RangeTest.Proofs.Summary.Untimed

namespace RangeTest

/-- Two rows that differ under one heading at most. -/
structure Row.AgreesBut (heading : String) (row other : Row) : Prop where
  length : row.length = other.length
  cells : ∀ i : Nat, header[i]? ≠ some heading → row[i]? = other[i]?

theorem Record.eq_of_untimed {r other : Record} (same : r.untimed = other.untimed) :
    other = { r with capturedAt := other.capturedAt } :=
  congrArg (fun record : Record => { record with capturedAt := other.capturedAt }) same.symm

section
variable {σ : Type} {link : LinkSummary} {site : Option LinkSite} {lengthField : UInt32}

theorem Row.ofRecord_agrees {r other : Record} (same : r.untimed = other.untimed) (frame : Frame) :
    AgreesBut "Timestamp" (ofRecord r link site frame) (ofRecord other link site frame) where
  length := rfl
  cells i elsewhere := by
    have position : 6 ≠ i := by
      rintro rfl
      exact elsewhere rfl
    have masked : (ofRecord r link site frame).set 6 "" =
        (ofRecord other link site frame).set 6 "" := by
      rw [Record.eq_of_untimed same]
      rfl
    rw [← List.getElem?_set_ne position, masked, List.getElem?_set_ne position]

theorem Row.ofPacket_alike {r other : Record} (same : r.untimed = other.untimed) :
    Except.Alike (AgreesBut "Timestamp") (ofPacket link site lengthField r)
      (ofPacket link site lengthField other) := by
  have framed : Frame.ofRecord other lengthField = Frame.ofRecord r lengthField := by
    rw [Record.eq_of_untimed same]
    rfl
  rw [ofPacket, ofPacket, framed]
  cases Frame.ofRecord r lengthField with
  | error error => exact .error error
  | ok frame => exact .ok (ofRecord_agrees same frame)

theorem Analysis.link?_untimed {a b : Analysis}
    (same : a.correlator.untimed = b.correlator.untimed) (link : LinkSummary) :
    (a.link? link).map Link.untimed = (b.link? link).map Link.untimed := by
  have known (c : Analysis) : (c.link? link).map Link.untimed =
      (c.correlator.untimed.nodes.get? link.receiver).bind (·.links.get? link.sender) := by
    rw [link?, Correlator.untimed, Directory.get?_map]
    cases c.correlator.nodes.get? link.receiver with
    | none => rfl
    | some node => exact (Directory.get?_map Link.untimed node.links link.sender).symm
  rw [known, known, same]

theorem Link.packets_of_untimed {l other : Link} (same : l.untimed = other.untimed)
    (descriptor : String) :
    List.Forall₂ (fun r otherRecord => r.untimed = otherRecord.untimed)
      (l.received.packets descriptor) (other.received.packets descriptor) := by
  have packets : (l.received.packets descriptor).map Record.untimed =
      (other.received.packets descriptor).map Record.untimed := by
    rw [← Ledger.packets_untimed, ← Ledger.packets_untimed]
    exact congrArg (·.received.packets descriptor) same
  exact map_eq_map_iff_forall₂.1 packets

theorem Row.ofLink_alike {a b : Analysis} (same : a.correlator.untimed = b.correlator.untimed)
    (resolver : Option (Resolver σ)) :
    Act.Alike (List.Forall₂ (AgreesBut "Timestamp")) (ofLink a resolver lengthField link)
      (ofLink b resolver lengthField link) := by
  have known := Analysis.link?_untimed same link
  rw [ofLink, ofLink]
  cases here : a.link? link with
  | none =>
    cases there : b.link? link with
    | none => exact .pure .nil
    | some other =>
      rw [here, there] at known
      cases known
  | some l =>
    cases there : b.link? link with
    | none =>
      rw [here, there] at known
      cases known
    | some other =>
      rw [here, there] at known
      refine (Act.Alike.refl (LinkSite.resolve? resolver link)).bind fun site _ resolved => ?_
      cases resolved
      exact .mapM (Link.packets_of_untimed (Option.some.inj known) link.descriptor)
        fun _ _ alike => .ofExcept (ofPacket_alike alike)

end

/-- Two analyses that are the same but for capture times have rows that differ under `Timestamp` at
most. -/
theorem Analysis.rows_alike {a b : Analysis}
    (correlated : a.correlator.untimed = b.correlator.untimed) (summed : a.links = b.links)
    (resolver : Option (Resolver σ)) (lengthField : UInt32) :
    Act.Alike (List.Forall₂ (Row.AgreesBut "Timestamp")) (a.rows resolver lengthField)
      (b.rows resolver lengthField) := by
  have reported : List.Forall₂ Eq (b.links.filter (0 < ·.received))
      (b.links.filter (0 < ·.received)) := List.forall₂_same.2 fun _ _ => rfl
  have groups : Act.Alike (List.Forall₂ (List.Forall₂ (Row.AgreesBut "Timestamp")))
      ((b.links.filter (0 < ·.received)).mapM (Row.ofLink a resolver lengthField))
      ((b.links.filter (0 < ·.received)).mapM (Row.ofLink b resolver lengthField)) := by
    refine .mapM reported fun link other same => ?_
    cases same
    exact Row.ofLink_alike correlated resolver
  rw [rows, rows, summed]
  exact groups.bind fun _ _ alike => .pure (List.rel_flatten alike)

end RangeTest
