import RangeTest.Proofs.Correlator.History
import RangeTest.Proofs.Record.Untimed

namespace RangeTest

def Bucket.untimed (b : Bucket) : Bucket :=
  { b with packets := b.packets.map .untimed }

def Ledger.untimed (l : Ledger) : Ledger :=
  ⟨l.buckets.map fun entry => (entry.1, entry.2.untimed)⟩

def Link.untimed (l : Link) : Link where
  received := l.received.untimed
  base := l.base.untimed

def Receiver.untimed (n : Receiver) : Receiver :=
  { n with links := n.links.map .untimed }

/-- What a correlator holds but for the capture times. -/
def Correlator.untimed (c : Correlator) : Correlator :=
  { c with nodes := c.nodes.map .untimed }

def Intake.untimed : Intake → Intake
  | received r => received r.untimed
  | transmitted r => transmitted r.untimed

theorem Directory.map_put (f : α → β) (d : Directory α) (key : String) (value : α) :
    (d.put key value).map f = (d.map f).put key (f value) := by
  have entries (old : List (String × α)) :
      (putEntry key value old).map (fun entry => (entry.1, f entry.2)) =
        putEntry key (f value) (old.map fun entry => (entry.1, f entry.2)) := by
    induction old with
    | nil => rfl
    | cons entry old ih =>
      rw [putEntry, List.map_cons, putEntry]
      split
      · rfl
      · split
        · rw [List.map_cons, ih]
        · rfl
  simp only [map, put, entries]

theorem Directory.map_map (f : α → β) (g : β → γ) (d : Directory α) :
    (d.map f).map g = d.map fun value => g (f value) := by
  simp [map]

section
variable (r : Record)

/-- Filing does not look at capture times. -/
theorem Bucket.add_untimed (b : Bucket) :
    b.untimed.add r.untimed = ((b.add r).1, (b.add r).2.untimed) := by
  rw [add, add]
  change (if b.numbers.contains r.packetNr then _ else _) = _
  split
  · rfl
  · simp only [untimed, List.map_append, List.map_cons, List.map_nil]
    rfl

theorem Ledger.file_untimed (buckets : List (String × Bucket)) :
    file r.untimed (buckets.map fun entry => (entry.1, entry.2.untimed)) =
      ((file r buckets).1, (file r buckets).2.map fun entry => (entry.1, entry.2.untimed)) := by
  induction buckets with
  | nil => rfl
  | cons entry rest ih =>
    obtain ⟨descriptor, bucket⟩ := entry
    rw [List.map_cons, file, file]
    change (if descriptor = r.descriptor then _ else _) = _
    split
    · rw [Bucket.add_untimed]
      rfl
    · rw [ih]
      rfl

theorem Ledger.add_untimed (l : Ledger) :
    l.untimed.add r.untimed = ((l.add r).1, (l.add r).2.untimed) := by
  rw [add, untimed, file_untimed]
  rfl

theorem Link.ledger_untimed (l : Link) (side : Side) :
    l.untimed.ledger side = (l.ledger side).untimed := by
  cases side <;> rfl

theorem Link.setLedger_untimed (l : Link) (ledger : Ledger) (side : Side) :
    l.untimed.setLedger ledger.untimed side = (l.setLedger ledger side).untimed := by
  cases side <;> rfl

theorem Link.add_untimed (l : Link) (side : Side) :
    l.untimed.add side r.untimed = ((l.add side r).1, (l.add side r).2.untimed) := by
  rw [add, ledger_untimed, Ledger.add_untimed]
  dsimp only
  rw [setLedger_untimed]
  rfl

theorem Receiver.link_untimed (n : Receiver) (sender : String) :
    n.untimed.link sender = (n.link sender).untimed := by
  rw [link, link, untimed, Directory.get?_map]
  cases n.links.get? sender <;> rfl

theorem Receiver.offer_untimed (n : Receiver) :
    n.untimed.offer r.untimed = ((n.offer r).1, (n.offer r).2.untimed) := by
  have sameSide : side? n.untimed.address r.untimed = side? n.address r := rfl
  have sameSender : r.untimed.txLinkAddr = r.txLinkAddr := rfl
  rw [offer, sameSide, offer]
  cases side? n.address r with
  | none => rfl
  | some side =>
    dsimp only
    rw [sameSender, link_untimed, Link.add_untimed]
    simp only [untimed, Directory.map_put]

theorem Receiver.after_untimed (n : Receiver) :
    n.untimed.after r.untimed = (n.after r).untimed := by
  rw [after, offer_untimed, after]

theorem Receiver.refusal?_untimed (n : Receiver) :
    n.untimed.refusal? r.untimed = n.refusal? r := by
  rw [refusal?, offer_untimed, refusal?]

theorem Correlator.nodeAt_untimed (c : Correlator) (address : String) :
    c.untimed.nodeAt address = (c.nodeAt address).untimed := by
  rw [nodeAt, nodeAt, untimed, Directory.get?_map]
  cases c.nodes.get? address <;> rfl

theorem Correlator.receive_untimed (c : Correlator) :
    c.untimed.receive r.untimed = ((c.receive r).1.untimed, (c.receive r).2) := by
  have node : c.untimed.nodeAt r.untimed.rxLinkAddr = (c.nodeAt r.rxLinkAddr).untimed :=
    c.nodeAt_untimed r.rxLinkAddr
  rw [receive, node, receive]
  simp only [Receiver.refusal?_untimed, Receiver.after_untimed, untimed, Directory.map_put]
  rfl

theorem Correlator.register_untimed (c : Correlator) (address : String) :
    c.untimed.register address = (c.register address).untimed := by
  rw [register, nodeAt_untimed, register]
  simp only [untimed, Directory.map_put]

theorem Correlator.transmit_untimed (c : Correlator) :
    c.untimed.transmit r.untimed = ((c.transmit r).1.untimed, (c.transmit r).2) := by
  have nodes : (c.untimed.register r.untimed.rxLinkAddr).nodes =
      (c.register r.rxLinkAddr).nodes.map .untimed :=
    congrArg Correlator.nodes (c.register_untimed r.rxLinkAddr)
  have refused (node : Receiver) : (node.untimed.refusal? r.untimed).map
      (Notice.transmissionRefused node.untimed.address) =
        (node.refusal? r).map (Notice.transmissionRefused node.address) := by
    rw [Receiver.refusal?_untimed]
    rfl
  rw [transmit, nodes, transmit]
  simp only [Directory.values_map, List.filterMap_map, Function.comp_def, refused,
    Directory.map_map, Receiver.after_untimed, untimed]

end

theorem Correlator.take_untimed (c : Correlator) (i : Intake) :
    c.untimed.take i.untimed = (c.take i).untimed := by
  cases i with
  | received r => exact congrArg Prod.fst (c.receive_untimed r)
  | transmitted r => exact congrArg Prod.fst (c.transmit_untimed r)

/-- A correlator takes in records alike whatever their capture times. -/
theorem Correlator.run_untimed (history : List Intake) :
    run (history.map .untimed) = (run history).untimed := by
  induction history using List.reverseRecOn with
  | nil => rfl
  | append_singleton history i ih =>
    rw [List.map_append, List.map_singleton, run_concat, run_concat, ih, take_untimed]

end RangeTest
