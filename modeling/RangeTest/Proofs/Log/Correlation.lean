import RangeTest.Analysis
import RangeTest.Proofs.Correlator.Refinement
import RangeTest.Proofs.Log.Reading

namespace RangeTest

theorem Correlator.run_logs_eq_foldl (received transmitted : List Record) :
    run (Intake.logs received transmitted) =
      transmitted.foldl (fun c r => (c.transmit r).1)
        (received.foldl (fun c r => (c.receive r).1) .empty) := by
  simp [run, Intake.logs, take, List.foldl_map]

/-- An analysis is that of the records of its two logs, the receive log first. -/
theorem Analysis.correlate_ok {rx tx : LogReader} {a : Analysis}
    (success : (correlate rx tx).1 = .ok a) :
    ∃ received transmitted, rx.readAll.1 = .ok received ∧ tx.readAll.1 = .ok transmitted ∧
      a.correlator = .run (Intake.logs received transmitted) ∧
      a.links = a.correlator.summaries := by
  unfold correlate at success
  split at success
  · cases success
  · rename_i taken _ _ first
    split at success
    · cases success
    · rename_i correlator _ _ second
      cases success
      obtain ⟨received, readRx, fed⟩ := LogReader.drain_ok_iff.1 (congrArg (·.1) first)
      obtain ⟨transmitted, readTx, handed⟩ := LogReader.drain_ok_iff.1 (congrArg (·.1) second)
      refine ⟨received, transmitted, readRx, readTx, ?_, rfl⟩
      rw [Correlator.run_logs_eq_foldl, fed, handed]

/-- Two logs that are read to their ends make an analysis. -/
theorem Analysis.correlate_of_readAll {rx tx : LogReader} {received transmitted : List Record}
    (readRx : rx.readAll.1 = .ok received) (readTx : tx.readAll.1 = .ok transmitted) :
    ∃ a, (correlate rx tx).1 = .ok a ∧
      a.correlator = .run (Intake.logs received transmitted) ∧
      a.links = a.correlator.summaries := by
  have fed : (rx.drain Correlator.receive .empty).1 =
      .ok (received.foldl (fun c r => (c.receive r).1) .empty) :=
    LogReader.drain_ok_iff.2 ⟨received, readRx, rfl⟩
  have handed : (tx.drain Correlator.transmit
      (received.foldl (fun c r => (c.receive r).1) .empty)).1 = .ok (transmitted.foldl _ _) :=
    LogReader.drain_ok_iff.2 ⟨transmitted, readTx, rfl⟩
  rw [Correlator.run_logs_eq_foldl]
  unfold correlate
  split
  · rename_i error _ _ first
    rw [first] at fed
    cases fed
  · rename_i taken _ _ first
    rw [first] at fed
    cases fed
    split
    · rename_i error _ _ second
      rw [second] at handed
      cases handed
    · rename_i correlator _ _ second
      rw [second] at handed
      cases handed
      exact ⟨_, rfl, rfl, rfl⟩

end RangeTest
