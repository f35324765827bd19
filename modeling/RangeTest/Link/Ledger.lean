import RangeTest.Record

namespace RangeTest

/-- The packets that one side of a link logged with one descriptor, the oldest first. -/
structure Bucket where
  packets : List Record
  /-- The packet numbers that are used already. -/
  numbers : List UInt32

def Bucket.empty : Bucket where
  packets := []
  numbers := []

/-- Files a packet at the end and tells whether it did so: a packet number can be used once. -/
def Bucket.add (b : Bucket) (r : Record) : Bool × Bucket :=
  if b.numbers.contains r.packetNr then (false, b)
  else (true, { packets := b.packets ++ [r], numbers := r.packetNr :: b.numbers })

/-- The packets that one side of a link logged, by descriptor in the order of first appearance. -/
structure Ledger where
  buckets : List (String × Bucket)

def Ledger.empty : Ledger :=
  ⟨[]⟩

def Ledger.bucket? (l : Ledger) (descriptor : String) : Option Bucket :=
  (l.buckets.find? (·.1 == descriptor)).map (·.2)

/-- What was logged with a descriptor. -/
def Ledger.bucket (l : Ledger) (descriptor : String) : Bucket :=
  (l.bucket? descriptor).getD .empty

/-- The packets logged with a descriptor, the oldest first. -/
def Ledger.packets (l : Ledger) (descriptor : String) : List Record :=
  (l.bucket descriptor).packets

def Ledger.count (l : Ledger) (descriptor : String) : Nat :=
  (l.packets descriptor).length

/-- The descriptors in the order of first appearance. -/
def Ledger.descriptors (l : Ledger) : List String :=
  l.buckets.map (·.1)

/-- Files a packet in the bucket of its descriptor. The bucket is opened behind all others if there
is none, whether the packet can be filed in it or not. -/
def Ledger.file (r : Record) : List (String × Bucket) → Bool × List (String × Bucket)
  | [] =>
    let (filed, bucket) := Bucket.empty.add r
    (filed, [(r.descriptor, bucket)])
  | (descriptor, bucket) :: rest =>
    if descriptor = r.descriptor then
      let (filed, bucket) := bucket.add r
      (filed, (descriptor, bucket) :: rest)
    else
      let (filed, rest) := file r rest
      (filed, (descriptor, bucket) :: rest)

/-- Files a packet and tells whether its number was still free. -/
def Ledger.add (l : Ledger) (r : Record) : Bool × Ledger :=
  let (filed, buckets) := file r l.buckets
  (filed, ⟨buckets⟩)

/-- Whether a packet is filed depends on the bucket of its descriptor alone. -/
theorem Ledger.add_fst (l : Ledger) (r : Record) :
    (l.add r).1 = ((l.bucket r.descriptor).add r).1 := by
  obtain ⟨buckets⟩ := l
  induction buckets with
  | nil => rfl
  | cons entry rest ih =>
    obtain ⟨descriptor, bucket⟩ := entry
    by_cases here : descriptor = r.descriptor
    · simp [add, file, Ledger.bucket, bucket?, here]
    · simpa [add, file, Ledger.bucket, bucket?, here] using ih

/-- Filing changes the bucket of the packet and no other. -/
theorem Ledger.bucket?_add (l : Ledger) (r : Record) (descriptor : String) :
    (l.add r).2.bucket? descriptor =
      if descriptor = r.descriptor then some ((l.bucket descriptor).add r).2
      else l.bucket? descriptor := by
  obtain ⟨buckets⟩ := l
  induction buckets with
  | nil =>
    by_cases same : descriptor = r.descriptor
    · simp [add, file, Ledger.bucket, bucket?, same]
    · have other : ¬ r.descriptor = descriptor := fun h => same h.symm
      simp [add, file, bucket?, same, other]
  | cons entry rest ih =>
    obtain ⟨first, bucket⟩ := entry
    by_cases here : first = r.descriptor
    · by_cases same : descriptor = r.descriptor
      · simp [add, file, Ledger.bucket, bucket?, here, same]
      · have other : ¬ r.descriptor = descriptor := fun h => same h.symm
        simp [add, file, bucket?, here, same, other]
    · by_cases found : first = descriptor
      · have other : ¬ descriptor = r.descriptor := fun h => here (found.trans h)
        simp [add, file, bucket?, found, other]
      · simpa [add, file, Ledger.bucket, bucket?, here, found] using ih

theorem Ledger.bucket_add (l : Ledger) (r : Record) (descriptor : String) :
    (l.add r).2.bucket descriptor =
      if descriptor = r.descriptor then ((l.bucket descriptor).add r).2
      else l.bucket descriptor := by
  rw [bucket, bucket?_add]
  split <;> rfl

/-- A descriptor that is new comes behind the others. -/
theorem Ledger.descriptors_add (l : Ledger) (r : Record) :
    (l.add r).2.descriptors =
      if r.descriptor ∈ l.descriptors then l.descriptors else l.descriptors ++ [r.descriptor] := by
  obtain ⟨buckets⟩ := l
  induction buckets with
  | nil => rfl
  | cons entry rest ih =>
    obtain ⟨first, bucket⟩ := entry
    by_cases here : first = r.descriptor
    · simp [add, file, descriptors, here]
    · have other : ¬ r.descriptor = first := fun h => here h.symm
      by_cases later : r.descriptor ∈ rest.map (·.1)
      · simpa [add, file, descriptors, here, other, later] using ih
      · simpa [add, file, descriptors, here, other, later] using ih

end RangeTest
