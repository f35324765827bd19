import RangeTest.Proofs.Ledger.Numbers
import RangeTest.Proofs.Link.History

namespace RangeTest

/-- The records that were logged on a side in the course of a history, repetitions included. -/
def Link.logged (history : List (Side × Record)) (side : Side) : List Record :=
  (history.filter (·.1 == side)).map (·.2)

/-- The records with a descriptor that were logged on a side, repetitions included. -/
def Link.loggedWith (history : List (Side × Record)) (side : Side) (descriptor : String) :
    List Record :=
  (logged history side).filter (·.descriptor == descriptor)

/-- Of the records with a descriptor that were logged on a side, the first one of every number. -/
def Link.kept (history : List (Side × Record)) (side : Side) (descriptor : String) : List Record :=
  Record.firsts (loggedWith history side descriptor)

theorem Link.logged_append (history more : List (Side × Record)) (side : Side) :
    logged (history ++ more) side = logged history side ++ logged more side := by
  rw [logged, List.filter_append, List.map_append, ← logged, ← logged]

theorem Link.loggedWith_append (history more : List (Side × Record)) (side : Side)
    (descriptor : String) :
    loggedWith (history ++ more) side descriptor =
      loggedWith history side descriptor ++ loggedWith more side descriptor := by
  rw [loggedWith, logged_append, List.filter_append, ← loggedWith, ← loggedWith]

/-- What is kept stays, whatever is logged later. -/
theorem Link.kept_prefix (history more : List (Side × Record)) (side : Side) (descriptor : String) :
    kept history side descriptor <+: kept (history ++ more) side descriptor := by
  rw [kept, kept, loggedWith_append]
  exact Record.firsts_prefix_append _ _

theorem Link.numbers_kept (history : List (Side × Record)) (side : Side) (descriptor : String) :
    Record.numbers (kept history side descriptor) =
      Record.numbers (loggedWith history side descriptor) :=
  Record.numbers_firsts _

theorem Link.numbers_kept_append (history more : List (Side × Record)) (side : Side)
    (descriptor : String) :
    Record.numbers (kept (history ++ more) side descriptor) =
      Record.numbers (kept history side descriptor) ∪
        Record.numbers (loggedWith more side descriptor) := by
  rw [numbers_kept, numbers_kept, loggedWith_append, Record.numbers_append]

/-- What is kept on a side stays as it is while the other side is logged. -/
theorem Link.kept_append_of_other {history more : List (Side × Record)} {side other : Side}
    (different : other ≠ side) (elsewhere : ∀ entry ∈ more, entry.1 = other) (descriptor : String) :
    kept (history ++ more) side descriptor = kept history side descriptor := by
  have nothing : logged more side = [] := by
    rw [logged, List.map_eq_nil_iff, List.filter_eq_nil_iff]
    intro entry member here
    exact different ((elsewhere entry member).symm.trans (beq_iff_eq.1 here))
  rw [kept, loggedWith, logged_append, nothing, List.append_nil, ← loggedWith, ← kept]

theorem Link.kept_eq_nil_iff {history : List (Side × Record)} {side : Side} {descriptor : String} :
    kept history side descriptor = [] ↔ loggedWith history side descriptor = [] := by
  rw [← Record.numbers_eq_empty_iff, numbers_kept, Record.numbers_eq_empty_iff]

theorem Link.kept_ne_nil {history : List (Side × Record)} {side : Side} {descriptor : String}
    (something : ∃ r ∈ logged history side, r.descriptor = descriptor) :
    kept history side descriptor ≠ [] := by
  obtain ⟨r, member, same⟩ := something
  refine mt kept_eq_nil_iff.1 (List.ne_nil_of_mem (List.mem_filter.2 ⟨member, ?_⟩))
  exact beq_iff_eq.2 same

/-- The sides of a link do not touch each other: each holds what was logged on it. -/
theorem Link.ledger_run (history : List (Side × Record)) (side : Side) :
    (run history).ledger side = .ofRecords (logged history side) := by
  induction history using List.reverseRecOn with
  | nil => exact ledger_empty side
  | append_singleton history entry ih =>
    obtain ⟨other, r⟩ := entry
    rw [run_concat, ledger_add, logged_append]
    by_cases same : side = other
    · subst other
      have here : logged [(side, r)] side = [r] := by simp [logged]
      rw [if_pos rfl, ih, here, Ledger.ofRecords_concat]
    · have elsewhere : logged [(other, r)] side = [] := by simp [logged, Ne.symm same]
      rw [if_neg same, ih, elsewhere, List.append_nil]

theorem Link.packets_run (history : List (Side × Record)) (side : Side) (descriptor : String) :
    ((run history).ledger side).packets descriptor = kept history side descriptor := by
  rw [ledger_run, Ledger.packets_ofRecords, kept, loggedWith]

end RangeTest
