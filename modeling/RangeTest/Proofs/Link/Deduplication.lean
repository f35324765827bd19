import RangeTest.Proofs.Link.Logged
import RangeTest.Proofs.Loss.Measure

namespace RangeTest

/-- A packet that is refused leaves no trace. -/
theorem Bucket.add_of_refused {b : Bucket} {r : Record} (refused : (b.add r).1 = false) :
    (b.add r).2 = b := by
  by_cases used : r.packetNr ∈ b.numbers
  · simp [add, used]
  · simp [add, used] at refused

/-- A packet that is refused leaves no trace, not even a bucket for its descriptor. -/
theorem Ledger.add_of_refused {l : Ledger} {r : Record} (refused : (l.add r).1 = false) :
    (l.add r).2 = l := by
  obtain ⟨buckets⟩ := l
  induction buckets with
  | nil => cases refused
  | cons entry rest ih =>
    obtain ⟨descriptor, b⟩ := entry
    by_cases here : descriptor = r.descriptor
    · simp only [add, file, here, if_true] at refused ⊢
      rw [Bucket.add_of_refused refused]
    · simp only [add, file, here, if_false, Ledger.mk.injEq] at refused ih ⊢
      rw [ih refused]

/-- The descriptors of a ledger are those of all records offered, in the order in which they came
up first. -/
theorem Ledger.descriptors_ofRecords (records : List Record) :
    (ofRecords records).descriptors = (records.map (·.descriptor)).eraseDups := by
  induction records using List.reverseRecOn with
  | nil => rfl
  | append_singleton records r ih =>
    rw [ofRecords_concat, descriptors_add, ih, List.map_append, List.eraseDups_append]
    by_cases known : r.descriptor ∈ records.map (·.descriptor)
    · have nothing : [r.descriptor].removeAll (records.map (·.descriptor)) = [] := by
        simpa [List.removeAll] using known
      rw [if_pos (List.mem_eraseDups.2 known), List.map_singleton, nothing]
      exact (List.append_nil _).symm
    · have new : [r.descriptor].removeAll (records.map (·.descriptor)) = [r.descriptor] := by
        simpa [List.removeAll] using known
      rw [if_neg (mt List.mem_eraseDups.1 known), List.map_singleton, new]
      rfl

@[simp] theorem Link.setLedger_ledger (l : Link) (side : Side) :
    l.setLedger (l.ledger side) side = l := by
  cases side <;> rfl

theorem Link.ext_ledger {l other : Link} (same : ∀ side, l.ledger side = other.ledger side) :
    l = other := by
  obtain ⟨received, base⟩ := l
  obtain rfl : received = other.received := same .received
  obtain rfl : base = other.base := same .base
  rfl

/-- A link files what the ledger of the side files, and anything else leaves it as it was. -/
theorem Link.add_eq_ite (l : Link) (side : Side) (r : Record) :
    l.add side r =
      if ((l.ledger side).add r).1 then (.ok (), l.setLedger ((l.ledger side).add r).2 side)
      else (.error (side.duplicate r.descriptor r.packetNr), l) := by
  cases filed : ((l.ledger side).add r).1 with
  | true => simp [add, filed]
  | false => simp [add, filed, Ledger.add_of_refused filed]

/-- A packet is refused if and only if one with its descriptor and number was logged before on the
same side, be it filed or refused. -/
theorem Link.add_run_eq_error_iff {history : List (Side × Record)} {side : Side} {r : Record}
    {error : LinkError} :
    ((run history).add side r).1 = .error error ↔
      (∃ earlier ∈ logged history side,
        earlier.descriptor = r.descriptor ∧ earlier.packetNr = r.packetNr) ∧
      error = side.duplicate r.descriptor r.packetNr := by
  have refused : ((run history).ledger side |>.add r).1 = false ↔
      ∃ earlier ∈ logged history side,
        earlier.descriptor = r.descriptor ∧ earlier.packetNr = r.packetNr := by
    rw [ledger_run, Ledger.add_ofRecords]
    simp [and_assoc]
  rw [← refused, add_eq_ite]
  cases ((run history).ledger side |>.add r).1 with
  | true => simp
  | false => simp [eq_comm]

theorem Link.add_of_error {l : Link} {side : Side} {r : Record} {error : LinkError}
    (refused : (l.add side r).1 = .error error) : (l.add side r).2 = l := by
  rw [add_eq_ite] at refused ⊢
  split at refused
  · cases refused
  · rename_i notFiled
    rw [if_neg notFiled]

/-- Of the packets that are logged on a link, those that it files, each with its side. -/
def Link.filed (l : Link) : List (Side × Record) → List (Side × Record)
  | [] => []
  | (side, r) :: rest =>
    match l.add side r with
    | (.ok _, changed) => (side, r) :: filed changed rest
    | (.error _, changed) => filed changed rest

theorem Link.filed_cons (l : Link) (side : Side) (r : Record) (rest : List (Side × Record)) :
    l.filed ((side, r) :: rest) =
      (if ((l.ledger side).add r).1 then [(side, r)] else []) ++ (l.add side r).2.filed rest := by
  rw [filed.eq_def]
  dsimp only
  rw [add_eq_ite]
  by_cases free : ((l.ledger side).add r).1
  · rw [if_pos free, if_pos free]
    rfl
  · rw [if_neg free, if_neg free]
    rfl

theorem Link.loggedWith_singleton (logged side : Side) (r : Record) (descriptor : String) :
    loggedWith [(logged, r)] side descriptor =
      if logged = side ∧ r.descriptor = descriptor then [r] else [] := by
  by_cases here : logged = side
  · by_cases same : r.descriptor = descriptor
    · simp [loggedWith, Link.logged, here, same]
    · simp [loggedWith, Link.logged, here, same]
  · simp [loggedWith, Link.logged, here]

/-- A packet adds to a link what is filed of it. -/
theorem Link.packets_ledger_add (l : Link) (logged side : Side) (r : Record)
    (descriptor : String) :
    ((l.add logged r).2.ledger side).packets descriptor = (l.ledger side).packets descriptor ++
      loggedWith (if ((l.ledger logged).add r).1 then [(logged, r)] else []) side descriptor := by
  rw [ledger_add]
  by_cases same : side = logged
  · subst same
    rw [if_pos rfl, Ledger.packets_add]
    by_cases free : ((l.ledger side).add r).1
    · simp [free, loggedWith_singleton]
    · simp [free, loggedWith, Link.logged]
  · rw [if_neg same]
    by_cases free : ((l.ledger logged).add r).1
    · simp [free, loggedWith_singleton, Ne.symm same]
    · simp [free, loggedWith, Link.logged]

/-- Behind what a link held comes, packet by packet, what it files. -/
theorem Link.packets_foldl (l : Link) (history : List (Side × Record)) (side : Side)
    (descriptor : String) :
    ((history.foldl (fun l entry => (l.add entry.1 entry.2).2) l).ledger side).packets descriptor =
      (l.ledger side).packets descriptor ++ loggedWith (l.filed history) side descriptor := by
  induction history generalizing l with
  | nil => exact (List.append_nil _).symm
  | cons entry rest ih =>
    obtain ⟨logged, r⟩ := entry
    rw [List.foldl_cons, ih, packets_ledger_add, filed_cons, loggedWith_append, List.append_assoc]

/-- A link holds what it has filed, in the order in which that was logged. -/
theorem Link.packets_run_filed (history : List (Side × Record)) (side : Side)
    (descriptor : String) :
    ((run history).ledger side).packets descriptor =
      loggedWith (empty.filed history) side descriptor := by
  have whole := packets_foldl empty history side descriptor
  rwa [ledger_empty] at whole

theorem Link.descriptors_run (history : List (Side × Record)) (side : Side) :
    ((run history).ledger side).descriptors =
      ((logged history side).map (·.descriptor)).eraseDups := by
  rw [ledger_run, Ledger.descriptors_ofRecords]

theorem Link.unmatchedDescriptors_run (history : List (Side × Record)) :
    (run history).unmatchedDescriptors =
      ((logged history .received).map (·.descriptor)).eraseDups.filter
        (· ∉ (logged history .base).map (·.descriptor)) := by
  have received := descriptors_run history .received
  have base := descriptors_run history .base
  change (run history).received.descriptors = _ at received
  change (run history).base.descriptors = _ at base
  rw [unmatchedDescriptors, received]
  refine List.filter_congr fun descriptor _ => ?_
  have listed : ((run history).base.bucket? descriptor).isSome ↔
      descriptor ∈ (logged history .base).map (·.descriptor) := by
    rw [Ledger.bucket?_isSome_iff, base, List.mem_eraseDups]
  rw [Bool.eq_iff_iff, decide_eq_true_iff, ← listed, ← Option.not_isSome, Bool.not_eq_true',
    Bool.not_eq_true]

/-- What a link comes to does not depend on how its two sides take turns. -/
theorem Link.run_congr {history other : List (Side × Record)}
    (same : ∀ side, logged other side = logged history side) : run other = run history :=
  ext_ledger fun side => by rw [ledger_run, ledger_run, same side]

/-- A packet is refused if and only if one with its descriptor and number was logged before on the
same side, and then the link stays as it was. So the first one of every number is filed, and in the
end the link holds what was filed, in its order. The descriptors of the link are those logged as
transmitted, the unmatched ones those that were only received, in the order in which they came up
first. How the two sides took turns does not matter. -/
theorem Link.run_deduplicates (history : List (Side × Record)) :
    let l := run history
    let filed := empty.filed history
    let repeats (side : Side) (r : Record) := ∃ earlier ∈ logged history side,
      earlier.descriptor = r.descriptor ∧ earlier.packetNr = r.packetNr
    (∀ r error, (l.addReceived r).1 = .error error ↔
      repeats .received r ∧ error = .duplicatePacket r.descriptor r.packetNr) ∧
    (∀ r error, (l.addBase r).1 = .error error ↔
      repeats .base r ∧ error = .duplicateBase r.descriptor r.packetNr) ∧
    (∀ side r error, (l.add side r).1 = .error error → (l.add side r).2 = l) ∧
    (∀ side descriptor, loggedWith filed side descriptor = kept history side descriptor) ∧
    (∀ descriptor, l.received.packets descriptor = loggedWith filed .received descriptor) ∧
    (∀ descriptor, l.base.count descriptor =
      filed.countP fun (side, r) => side = .base ∧ r.descriptor = descriptor) ∧
    l.base.descriptors = ((logged history .base).map (·.descriptor)).eraseDups ∧
    l.unmatchedDescriptors = ((logged history .received).map (·.descriptor)).eraseDups.filter
      (· ∉ (logged history .base).map (·.descriptor)) ∧
    ∀ other, (∀ side, logged other side = logged history side) → run other = l := by
  intro l filed repeats
  refine ⟨fun r error => add_run_eq_error_iff, fun r error => add_run_eq_error_iff,
    fun side r error => add_of_error, fun side descriptor => ?_,
    packets_run_filed history .received, fun descriptor => ?_, descriptors_run history .base,
    unmatchedDescriptors_run history, fun other => run_congr⟩
  · rw [← packets_run, packets_run_filed]
  have held : l.base.packets descriptor = loggedWith filed .base descriptor :=
    packets_run_filed history .base descriptor
  rw [Ledger.count, held, loggedWith, logged, List.filter_map, List.length_map,
    List.filter_filter, List.countP_eq_length_filter]
  refine congrArg List.length (List.filter_congr fun entry _ => ?_)
  rw [Bool.eq_iff_iff]
  simp [and_comm]

end RangeTest
