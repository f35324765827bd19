import Mathlib.Data.List.Induction
import RangeTest.Correlator

namespace RangeTest

theorem toNat_eq_ite (b : Bool) : b.toNat = if b then 1 else 0 := by
  cases b <;> rfl

/-- A record on its way into a correlator, from one of the two logs. -/
inductive Intake where
  | received (record : Record)
  | transmitted (record : Record)

def Intake.record : Intake → Record
  | received r => r
  | transmitted r => r

/-- The correlator after it took in a record. -/
def Correlator.take (c : Correlator) : Intake → Correlator
  | .received r => (c.receive r).1
  | .transmitted r => (c.transmit r).1

/-- The correlator that took in a history of records, the oldest first, and nothing before. -/
def Correlator.run (history : List Intake) : Correlator :=
  history.foldl take .empty

@[simp] theorem Correlator.run_nil : run [] = .empty :=
  rfl

@[simp] theorem Correlator.run_concat (history : List Intake) (i : Intake) :
    run (history ++ [i]) = (run history).take i := by
  simp [run]

/-- The packets filed on a side of the link from a sender to a receiver with a descriptor, the
oldest first. -/
def Correlator.packets (c : Correlator) (side : Side) (receiver sender descriptor : String) :
    List Record :=
  (((c.nodeAt receiver).link sender).ledger side).packets descriptor

/-- The nodes that a record is shown to: the one that logged it as received, and every node known
where it was logged as transmitted. -/
def Correlator.audience (c : Correlator) : Intake → List String
  | .received r => [r.rxLinkAddr]
  | .transmitted r => (c.register r.rxLinkAddr).nodes.keys

@[simp] theorem Correlator.nodeAt_empty (address : String) : empty.nodeAt address = .new address :=
  rfl

theorem Correlator.nodeAt_of_mem {c : Correlator} {address : String} {n : Receiver}
    (member : (address, n) ∈ c.nodes.entries) : c.nodeAt address = n := by
  simp [nodeAt, Directory.get?_eq_some_iff.2 member]

theorem Correlator.nodeAt_mem {c : Correlator} {address : String}
    (known : address ∈ c.nodes.keys) : (address, c.nodeAt address) ∈ c.nodes.entries := by
  obtain ⟨n, found⟩ := Directory.mem_keys_iff.1 known
  have member := Directory.get?_eq_some_iff.1 found
  rwa [nodeAt_of_mem member]

theorem Correlator.nodeAt_of_not_mem {c : Correlator} {address : String}
    (unknown : address ∉ c.nodes.keys) : c.nodeAt address = .new address := by
  cases found : c.nodes.get? address with
  | none => simp [nodeAt, found]
  | some n => exact absurd (Directory.mem_keys_iff.2 ⟨n, found⟩) unknown

theorem Correlator.values_eq_map_keys (c : Correlator) :
    c.nodes.values = c.nodes.keys.map c.nodeAt := by
  rw [Directory.values, Directory.keys, List.map_map]
  exact List.map_congr_left fun entry member => (nodeAt_of_mem member).symm

/-- The record of an intake registers the node that it names as receiver, and no other. -/
theorem Correlator.mem_keys_take {c : Correlator} {i : Intake} {address : String} :
    address ∈ (c.take i).nodes.keys ↔
      address = i.record.rxLinkAddr ∨ address ∈ c.nodes.keys := by
  cases i with
  | received r => exact Directory.mem_keys_put
  | transmitted r =>
    rw [take, transmit, Directory.keys_map]
    exact Directory.mem_keys_put

@[simp] theorem Correlator.mem_audience_received {c : Correlator} {r : Record} {address : String} :
    address ∈ c.audience (.received r) ↔ address = r.rxLinkAddr :=
  List.mem_singleton

@[simp] theorem Correlator.mem_audience_transmitted {c : Correlator} {r : Record}
    {address : String} :
    address ∈ c.audience (.transmitted r) ↔ address = r.rxLinkAddr ∨ address ∈ c.nodes.keys :=
  Directory.mem_keys_put

theorem Correlator.audience_nodup (c : Correlator) (i : Intake) : (c.audience i).Nodup := by
  cases i with
  | received r => simp [audience]
  | transmitted r => exact Directory.keys_nodup _

/-- Registering a node changes none. -/
@[simp] theorem Correlator.nodeAt_register (c : Correlator) (registered address : String) :
    (c.register registered).nodeAt address = c.nodeAt address := by
  by_cases same : address = registered
  · simp [nodeAt, register, Directory.get?_put, same]
  · simp [nodeAt, register, Directory.get?_put, same]

/-- Every node that sees a record files it as if it were alone, and no other node changes. -/
theorem Correlator.nodeAt_take (c : Correlator) (i : Intake) (address : String) :
    (c.take i).nodeAt address =
      if address ∈ c.audience i then (c.nodeAt address).after i.record
      else c.nodeAt address := by
  cases i with
  | received r =>
    by_cases same : address = r.rxLinkAddr
    · simp [take, receive, audience, nodeAt, Directory.get?_put, same, Intake.record]
    · simp [take, receive, audience, nodeAt, Directory.get?_put, same]
  | transmitted r =>
    have changed : (c.take (.transmitted r)).nodes.get? address =
        ((c.register r.rxLinkAddr).nodes.get? address).map (·.after r) :=
      Directory.get?_map ..
    by_cases known : address ∈ (c.register r.rxLinkAddr).nodes.keys
    · have found := Directory.get?_eq_some_iff.2 (nodeAt_mem known)
      rw [nodeAt_register] at found
      rw [audience, if_pos known, nodeAt, changed, found]
      rfl
    · have kept := nodeAt_of_not_mem known
      have absent : (c.register r.rxLinkAddr).nodes.get? address = none := by
        cases found : (c.register r.rxLinkAddr).nodes.get? address with
        | none => rfl
        | some n => exact absurd (Directory.mem_keys_iff.2 ⟨n, found⟩) known
      rw [audience, if_neg known, nodeAt, changed, absent, ← nodeAt_register c r.rxLinkAddr, kept]
      rfl

/-- One duplicate is counted for every node that refuses a record. -/
theorem Correlator.duplicates_take (c : Correlator) (i : Intake) :
    (c.take i).duplicates = c.duplicates +
      (c.audience i).countP fun address => ((c.nodeAt address).refusal? i.record).isSome := by
  cases i with
  | received r =>
    cases refused : (c.nodeAt r.rxLinkAddr).refusal? r with
    | none => simp [take, receive, audience, Intake.record, refused]
    | some error => simp [take, receive, audience, Intake.record, refused]
  | transmitted r =>
    have nodes := values_eq_map_keys (c.register r.rxLinkAddr)
    simp only [take, transmit, audience, Intake.record, nodes, List.filterMap_map,
      List.length_filterMap_eq_countP]
    simp

/-- The nodes that are known are those that a record named as receiver. -/
theorem Correlator.mem_keys_run {history : List Intake} {address : String} :
    address ∈ (run history).nodes.keys ↔ ∃ i ∈ history, i.record.rxLinkAddr = address := by
  induction history using List.reverseRecOn with
  | nil => simp [run, empty, Directory.empty, Directory.keys]
  | append_singleton history i ih =>
    rw [run_concat, mem_keys_take, ih]
    simp only [List.mem_append, List.mem_singleton]
    constructor
    · rintro (rfl | ⟨old, member, same⟩)
      · exact ⟨i, Or.inr rfl, rfl⟩
      · exact ⟨old, Or.inl member, same⟩
    · rintro ⟨old, member | rfl, same⟩
      · exact Or.inr ⟨old, member, same⟩
      · exact Or.inl same.symm

/-- A node stands under its own address. -/
@[simp] theorem Correlator.address_nodeAt_run (history : List Intake) (address : String) :
    ((run history).nodeAt address).address = address := by
  induction history using List.reverseRecOn with
  | nil => rfl
  | append_singleton history i ih =>
    rw [run_concat, nodeAt_take]
    split
    · rw [Receiver.after_address, ih]
    · exact ih

end RangeTest
