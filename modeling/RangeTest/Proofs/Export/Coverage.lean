import RangeTest.Proofs.Export.RoundTrip
import RangeTest.Proofs.Summary.Permutation
import RangeTest.Proofs.Summary.Unmatched

namespace RangeTest

theorem Correlator.WellFormed.belongs {c : Correlator} (formed : c.WellFormed)
    {receiver sender descriptor : String} {r : Record}
    (received : r ∈ c.packets .received receiver sender descriptor) :
    r.rxLinkAddr = receiver ∧ r.txLinkAddr = sender ∧ r.descriptor = descriptor := by
  obtain ⟨keyed, node⟩ := formed.nodeAt receiver
  have sound := (node.ledgers_link sender .received).bucket_sound descriptor
  obtain ⟨⟨rx, tx⟩, written⟩ := sound.belongs r received
  exact ⟨rx.trans keyed, tx, written⟩

theorem Correlator.WellFormed.identities_nodup {c : Correlator} (formed : c.WellFormed)
    (receiver sender descriptor : String) :
    ((c.packets .received receiver sender descriptor).map Record.identity).Nodup := by
  have sound := ((formed.nodeAt receiver).2.ledgers_link sender .received).bucket_sound descriptor
  have numbers := List.pairwise_map.1 sound.distinct
  refine List.pairwise_map.2 (numbers.imp fun other same => other ?_)
  simp only [Record.identity, Prod.mk.injEq] at same
  exact same.2.2.2

/-- Links without packets add nothing to a table. -/
theorem Analysis.exported_eq {a : Analysis} (formed : a.correlator.WellFormed)
    (summed : a.links = a.correlator.summaries) :
    a.exported = a.links.flatMap fun link =>
      a.correlator.packets .received link.receiver link.sender link.descriptor := by
  -- A summary that counts nothing as received has no packets to add.
  have silent : ∀ links ⊆ a.links, ((links.filter (0 < ·.received)).flatMap fun link =>
      a.correlator.packets .received link.receiver link.sender link.descriptor) =
        links.flatMap fun link =>
          a.correlator.packets .received link.receiver link.sender link.descriptor := by
    intro links listed
    induction links with
    | nil => rfl
    | cons link links ih =>
      rw [List.cons_subset] at listed
      have counts := (formed.counts_of_mem (summed ▸ listed.1)).2
      rw [List.filter_cons, List.flatMap_cons, ← ih listed.2]
      split
      · rw [List.flatMap_cons]
      · rename_i none
        have empty : link.received = 0 := by simpa using none
        rw [List.length_eq_zero_iff.1 (counts.symm.trans empty), List.nil_append]
  exact silent a.links (List.Subset.refl _)

theorem Analysis.length_exported {a : Analysis} (formed : a.correlator.WellFormed)
    (summed : a.links = a.correlator.summaries) :
    a.exported.length = (a.links.map (·.received)).sum := by
  rw [exported_eq formed summed, List.length_flatMap]
  refine congrArg List.sum (List.map_congr_left fun link listed => ?_)
  exact (formed.counts_of_mem (summed ▸ listed)).2.symm

theorem Analysis.transmitted_of_exported {a : Analysis} (formed : a.correlator.WellFormed)
    (summed : a.links = a.correlator.summaries) {r : Record} (exported : r ∈ a.exported) :
    r.descriptor ∈
      ((a.correlator.nodeAt r.rxLinkAddr).link r.txLinkAddr).base.descriptors := by
  obtain ⟨link, reported, received⟩ := List.mem_flatMap.1 exported
  have listed := summed ▸ (List.mem_filter.1 reported).1
  obtain ⟨rx, tx, written⟩ := formed.belongs received
  rw [rx, tx, written]
  exact (Correlator.mem_summaries formed listed).2.1

theorem Analysis.exported_of_transmitted {a : Analysis} (formed : a.correlator.WellFormed)
    (summed : a.links = a.correlator.summaries) {receiver sender descriptor : String} {r : Record}
    (received : r ∈ a.correlator.packets .received receiver sender descriptor)
    (transmitted : descriptor ∈
      ((a.correlator.nodeAt receiver).link sender).base.descriptors) : r ∈ a.exported := by
  rw [exported_eq formed summed, summed]
  exact List.mem_flatMap.2 ⟨_, formed.ofLink_mem_summaries transmitted, received⟩

theorem Analysis.exported_identities {a : Analysis} (formed : a.correlator.WellFormed)
    (summed : a.links = a.correlator.summaries) : (a.exported.map Record.identity).Nodup := by
  rw [exported_eq formed summed, List.map_flatMap, List.nodup_flatMap]
  refine ⟨fun link _ => formed.identities_nodup _ _ _, ?_⟩
  refine (List.pairwise_map.1 (summed ▸ formed.subjects_nodup)).imp fun other => ?_
  refine List.disjoint_left.2 fun identity here there => ?_
  obtain ⟨r, received, rfl⟩ := List.mem_map.1 here
  obtain ⟨r', receivedToo, same⟩ := List.mem_map.1 there
  obtain ⟨rx, tx, written⟩ := formed.belongs received
  obtain ⟨rx', tx', written'⟩ := formed.belongs receivedToo
  simp only [Record.identity, Prod.mk.injEq, rx, tx, written, rx', tx', written'] at same
  exact other (Prod.ext same.1.symm (Prod.ext same.2.1.symm same.2.2.1.symm))

/-- The columns by which the packets of a table are told apart. -/
def Column.keys : List Column :=
  [rxLinkAddr, txLinkAddr, descriptor, packetNr]

def Row.key (row : Row) : List (Option String) :=
  Column.keys.map fun column => row.cell? column.heading

def Record.key (r : Record) : List (Option String) :=
  Column.keys.map fun column => some (String.ofList (r.field column))

theorem Row.Shows.key_eq {row : Row} {r : Record} (shown : row.Shows r) : row.key = r.key :=
  List.map_congr_left fun column _ => shown.cells column

theorem Record.identity_of_key {r other : Record} (same : r.key = other.key) :
    r.identity = other.identity := by
  simp only [key, Column.keys, List.map_cons, List.map_nil, List.cons.injEq, Option.some.injEq,
    String.ofList_inj, field, String.toList_inj] at same
  obtain ⟨rx, tx, written, number, _⟩ := same
  have nr : r.packetNr = other.packetNr := UInt32.toNat_inj.1 (Numeral.write_inj number)
  rw [identity, identity, rx, tx, written, nr]

theorem Analysis.exported_keys {a : Analysis} (formed : a.correlator.WellFormed)
    (summed : a.links = a.correlator.summaries) : (a.exported.map Record.key).Nodup :=
  List.pairwise_map.2 ((List.pairwise_map.1 (exported_identities formed summed)).imp
    fun other same => other (Record.identity_of_key same))

theorem Row.map_key_of_shown {rows : List Row} {records : List Record}
    (shown : List.Forall₂ (fun r row => row.Shows r) records rows) :
    rows.map key = records.map Record.key := by
  induction shown with
  | nil => rfl
  | cons first _ ih => rw [List.map_cons, List.map_cons, first.key_eq, ih]

/-- The summaries of an analysis are about links that are known. -/
theorem Analysis.isSome_link? {a : Analysis} (formed : a.correlator.WellFormed)
    {link : LinkSummary} (listed : link ∈ a.correlator.summaries) : (a.link? link).isSome := by
  have transmitted := (Correlator.mem_summaries formed listed).2.1
  have base := (formed.nodeAt link.receiver).2.ledgers_link link.sender .base
  have sent := base.mem_descriptors_iff.1 transmitted
  by_contra unknown
  exact sent (packets_of_link?_none (Option.not_isSome_iff_eq_none.1 unknown) .base)

theorem Analysis.notices_suffix {rx tx : LogReader} {a : Analysis}
    (success : (correlate rx tx).1 = .ok a) : a.correlator.notices <:+ (correlate rx tx).2 := by
  unfold correlate at success ⊢
  split at success
  · cases success
  · rename_i taken heard rx first
    split at success
    · cases success
    · rename_i correlator more tx second
      cases success
      exact (List.suffix_append _ _).trans (List.suffix_append (heard ++ more) _)

/-- No packet that was received disappears silently. Where rows can be made, the descriptor of every
packet received over a link either was transmitted over it or is unmatched. If it was transmitted,
there is one row with the addresses, the descriptor and the number of the packet, and it shows the
packet; if it is unmatched, there is no such row, and the notices on the links name receiver, sender
and descriptor once. So there are as many rows as the summaries count packets, no two rows are of
the same packet, and every summary is about a link that is known. -/
theorem Analysis.rows_cover {rx tx : LogReader} {a : Analysis}
    (success : (correlate rx tx).1 = .ok a) {resolver : Option (Resolver σ)} {lengthField : UInt32}
    {source after : σ} {rows : List Row}
    (built : Act.from (a.rows resolver lengthField) source = (.ok rows, after)) :
    a.correlator.notices <:+ (correlate rx tx).2 ∧
      (∀ receiver sender descriptor,
        ∀ r ∈ a.correlator.packets .received receiver sender descriptor,
          let link := (a.correlator.nodeAt receiver).link sender
          let warnings := a.correlator.notices.count (.neverTransmitted receiver sender descriptor)
          descriptor ∈ link.base.descriptors ∧ descriptor ∉ link.unmatchedDescriptors ∧
              warnings = 0 ∧ (rows.map Row.key).count r.key = 1 ∧ (∃ row ∈ rows, row.Shows r) ∨
            descriptor ∉ link.base.descriptors ∧ descriptor ∈ link.unmatchedDescriptors ∧
              warnings = 1 ∧ r.key ∉ rows.map Row.key) ∧
      rows.length = (a.links.map (·.received)).sum ∧ (rows.map Row.key).Nodup ∧
      ∀ link ∈ a.links, (a.link? link).isSome := by
  obtain ⟨_, _, _, _, correlated, summed⟩ := correlate_ok success
  have formed : a.correlator.WellFormed := correlated ▸ .run _
  have shown := rows_show built
  have keys := Row.map_key_of_shown shown
  have distinct := exported_keys formed summed
  have lengths : rows.length = (a.links.map (·.received)).sum :=
    shown.length_eq.symm.trans (length_exported formed summed)
  refine ⟨notices_suffix success, ?_, lengths, keys ▸ distinct,
    fun link listed => isSome_link? formed (summed ▸ listed)⟩
  intro receiver sender descriptor r received link warnings
  have counted := formed.count_neverTransmitted receiver sender descriptor
  have arrived : descriptor ∈ link.received.descriptors := by
    have ledger := (formed.nodeAt receiver).2.ledgers_link sender .received
    exact ledger.mem_descriptors_iff.2 (List.ne_nil_of_mem received)
  rw [keys]
  by_cases transmitted : descriptor ∈ link.base.descriptors
  · have matched : descriptor ∉ link.unmatchedDescriptors :=
      fun unmatched => (Link.mem_unmatchedDescriptors_iff.1 unmatched).2 transmitted
    have member := exported_of_transmitted formed summed received transmitted
    refine Or.inl ⟨transmitted, matched, counted.trans (if_neg matched), ?_,
      exists_of_forall₂ shown r member⟩
    exact List.count_eq_one_of_mem distinct (List.mem_map_of_mem member)
  · have unmatched := Link.mem_unmatchedDescriptors_iff.2 ⟨arrived, transmitted⟩
    refine Or.inr ⟨transmitted, unmatched, counted.trans (if_pos unmatched), fun member => ?_⟩
    obtain ⟨other, exported, same⟩ := List.mem_map.1 member
    -- The row of another packet with this key would be of the same link and descriptor.
    have identity := Record.identity_of_key same
    simp only [Record.identity, Prod.mk.injEq] at identity
    obtain ⟨rx, tx, written⟩ := formed.belongs received
    have found := transmitted_of_exported formed summed exported
    rw [identity.1, identity.2.1, identity.2.2.1, rx, tx, written] at found
    exact transmitted found

/-- Of two packets received one has a row and the descriptor of the other is reported. -/
theorem Analysis.rows_cover_quoted : ∃ a rows,
    (correlate (.ofRecords "rx" [.quoted "A", .sample 1 "A"])
      (.ofRecords "tx" [.quoted "B"])).1 = .ok a ∧
    Act.from (a.rows (none : Option (Resolver Unit)) 1) () = (.ok rows, ()) ∧
    (∃ row ∈ rows, row.Shows (.quoted "A")) ∧
    (Record.sample 1 "A").key ∉ rows.map Row.key ∧
    a.correlator.notices.count (.neverTransmitted "A" "B" "GFSK") = 1 := by
  obtain ⟨a, rows, success, correlated, _, built⟩ := rows_quoted
  have received : Record.quoted "A" ∈ a.correlator.packets .received "A" "B" "FSK, 50" ∧
      Record.sample 1 "A" ∈ a.correlator.packets .received "A" "B" "GFSK" := by
    rw [correlated]
    decide +kernel
  have base : ((a.correlator.nodeAt "A").link "B").base.descriptors = ["FSK, 50"] := by
    rw [correlated]
    decide +kernel
  obtain ⟨_, packets, _⟩ := rows_cover success built
  obtain ⟨_, _, _, _, shown⟩ | ⟨missing, _⟩ := packets "A" "B" "FSK, 50" _ received.1
  · obtain ⟨transmitted, _⟩ | ⟨_, _, warned, none⟩ := packets "A" "B" "GFSK" _ received.2
    · rw [base] at transmitted
      exact absurd transmitted (by decide)
    · exact ⟨a, rows, success, built, shown, none, warned⟩
  · rw [base] at missing
    exact absurd (List.mem_singleton_self _) missing

end RangeTest
