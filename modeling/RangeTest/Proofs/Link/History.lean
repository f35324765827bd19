import Mathlib.Data.List.Induction
import RangeTest.Proofs.Ledger.WellFormed

namespace RangeTest

/-- The link after packets were logged on its two sides, one after the other, and nothing before. -/
def Link.run (history : List (Side × Record)) : Link :=
  history.foldl (fun l entry => (l.add entry.1 entry.2).2) .empty

@[simp] theorem Link.run_nil : run [] = .empty :=
  rfl

@[simp] theorem Link.run_concat (history : List (Side × Record)) (side : Side) (r : Record) :
    run (history ++ [(side, r)]) = ((run history).add side r).2 := by
  simp [run]

/-- A packet changes the side on which it was logged. -/
theorem Link.ledger_add (l : Link) (side other : Side) (r : Record) :
    (l.add side r).2.ledger other =
      if other = side then ((l.ledger side).add r).2 else l.ledger other := by
  rw [add, ledger_setLedger]

theorem Link.wellFormed_run (history : List (Side × Record)) (side : Side) :
    ((run history).ledger side).WellFormed fun _ => True := by
  induction history using List.reverseRecOn with
  | nil => simpa using Ledger.WellFormed.empty _
  | append_singleton history entry ih =>
    obtain ⟨logged, r⟩ := entry
    rw [run_concat, ledger_add]
    split
    · rename_i same
      exact (same ▸ ih).add trivial
    · exact ih

/-- A packet that is filed comes behind the others with its descriptor. -/
theorem Ledger.packets_add (l : Ledger) (r : Record) (descriptor : String) :
    (l.add r).2.packets descriptor =
      l.packets descriptor ++ if (l.add r).1 ∧ r.descriptor = descriptor then [r] else [] := by
  rw [packets, bucket_add, add_fst]
  by_cases same : descriptor = r.descriptor
  · subst same
    by_cases used : r.packetNr ∈ (l.bucket r.descriptor).numbers
    · simp [Bucket.add, used, packets]
    · simp [Bucket.add, used, packets]
  · simp [same, Ne.symm same, packets]

/-- Packets that are filed stay where they are. -/
theorem Ledger.packets_prefix_add (l : Ledger) (r : Record) (descriptor : String) :
    l.packets descriptor <+: (l.add r).2.packets descriptor := by
  rw [packets_add]
  exact List.prefix_append _ _

end RangeTest
