import RangeTest.Link.Basic

namespace RangeTest

/-- What holds of a bucket for records of a kind, be it empty or not. -/
structure Bucket.Sound (kind : Record → Prop) (b : Bucket) : Prop where
  belongs : ∀ r ∈ b.packets, kind r
  distinct : (b.packets.map (·.packetNr)).Nodup
  indexed : ∀ number, number ∈ b.numbers ↔ ∃ r ∈ b.packets, r.packetNr = number

theorem Bucket.Sound.empty (kind : Record → Prop) : Bucket.empty.Sound kind where
  belongs := by simp [Bucket.empty]
  distinct := .nil
  indexed := by simp [Bucket.empty]

theorem Bucket.Sound.add {kind : Record → Prop} {b : Bucket} {r : Record} (sound : b.Sound kind)
    (ofKind : kind r) : (b.add r).2.Sound kind := by
  by_cases used : r.packetNr ∈ b.numbers
  · have same : (b.add r).2 = b := by simp [Bucket.add, used]
    rwa [same]
  · have changed : (b.add r).2 = ⟨b.packets ++ [r], r.packetNr :: b.numbers⟩ := by
      simp [Bucket.add, used]
    rw [changed]
    constructor
    · intro packet member
      rcases List.mem_append.1 member with old | new
      · exact sound.belongs packet old
      · exact List.mem_singleton.1 new ▸ ofKind
    · rw [List.map_append, List.nodup_append]
      refine ⟨sound.distinct, by simp, ?_⟩
      intro number old other new same
      have fresh : other = r.packetNr := by simpa using new
      obtain ⟨packet, member, value⟩ := List.mem_map.1 old
      exact used ((sound.indexed _).2 ⟨packet, member, value.trans (same.trans fresh)⟩)
    · intro number
      simp only [List.mem_cons, sound.indexed, List.mem_append, List.not_mem_nil, or_false]
      constructor
      · rintro (rfl | ⟨packet, member, rfl⟩)
        · exact ⟨r, Or.inr rfl, rfl⟩
        · exact ⟨packet, Or.inl member, rfl⟩
      · rintro ⟨packet, member | rfl, rfl⟩
        · exact Or.inr ⟨packet, member, rfl⟩
        · exact Or.inl rfl

/-- A packet is filed unless another one has its number. -/
theorem Bucket.Sound.packets_add {kind : Record → Prop} {b : Bucket} (sound : b.Sound kind)
    (r : Record) :
    (b.add r).2.packets =
      if r.packetNr ∈ b.packets.map (·.packetNr) then b.packets else b.packets ++ [r] := by
  by_cases used : r.packetNr ∈ b.numbers
  · have held := List.mem_map.2 ((sound.indexed _).1 used)
    rw [if_pos held]
    simp [Bucket.add, used]
  · have free : r.packetNr ∉ b.packets.map (·.packetNr) :=
      fun held => used ((sound.indexed _).2 (List.mem_map.1 held))
    rw [if_neg free]
    simp [Bucket.add, used]

/-- A bucket holds a packet once one was offered, since a refused number is in use by another. -/
theorem Bucket.Sound.packets_add_ne_nil {kind : Record → Prop} {b : Bucket} (sound : b.Sound kind)
    (r : Record) : (b.add r).2.packets ≠ [] := by
  by_cases used : r.packetNr ∈ b.numbers
  · obtain ⟨packet, member, _⟩ := (sound.indexed _).1 used
    simpa [Bucket.add, used] using List.ne_nil_of_mem member
  · simp [Bucket.add, used]

/-- What holds of one side of a link: no descriptor occurs twice, and each has a bucket that is not
empty and holds records of that descriptor only, with distinct numbers that are all noted. -/
structure Ledger.WellFormed (kind : Record → Prop) (l : Ledger) : Prop where
  distinct : l.descriptors.Nodup
  buckets : ∀ entry ∈ l.buckets,
    entry.2.packets ≠ [] ∧ entry.2.Sound fun r => kind r ∧ r.descriptor = entry.1

theorem Ledger.WellFormed.empty (kind : Record → Prop) : Ledger.empty.WellFormed kind where
  distinct := .nil
  buckets := by simp [Ledger.empty]

theorem Ledger.mem_of_bucket? {l : Ledger} {descriptor : String} {b : Bucket}
    (found : l.bucket? descriptor = some b) : (descriptor, b) ∈ l.buckets := by
  obtain ⟨entry, atEntry, rfl⟩ := Option.map_eq_some_iff.1 found
  have same : entry.1 = descriptor := by simpa using List.find?_some atEntry
  exact same ▸ List.mem_of_find?_eq_some atEntry

/-- Every bucket is old or the one that a packet was filed in. -/
theorem Ledger.mem_buckets_add {l : Ledger} {r : Record} {entry : String × Bucket}
    (member : entry ∈ (l.add r).2.buckets) :
    entry ∈ l.buckets ∨ entry = (r.descriptor, ((l.bucket r.descriptor).add r).2) := by
  obtain ⟨buckets⟩ := l
  induction buckets with
  | nil => exact Or.inr (by simpa [add, file, bucket, bucket?] using member)
  | cons head rest ih =>
    obtain ⟨descriptor, b⟩ := head
    by_cases here : descriptor = r.descriptor
    · simp only [add, file, here, if_true, List.mem_cons] at member
      rcases member with changed | later
      · exact Or.inr (by simpa [bucket, bucket?, here] using changed)
      · exact Or.inl (List.mem_cons_of_mem _ later)
    · simp only [add, file, here, if_false, List.mem_cons] at member
      rcases member with old | later
      · exact Or.inl (old ▸ List.mem_cons_self ..)
      · rcases ih later with old | changed
        · exact Or.inl (List.mem_cons_of_mem _ old)
        · exact Or.inr (by simpa [bucket, bucket?, here] using changed)

theorem Ledger.WellFormed.bucket_sound {kind : Record → Prop} {l : Ledger}
    (formed : l.WellFormed kind) (descriptor : String) :
    (l.bucket descriptor).Sound fun r => kind r ∧ r.descriptor = descriptor := by
  cases found : l.bucket? descriptor with
  | none => simpa [bucket, found] using Bucket.Sound.empty _
  | some b => simpa [bucket, found] using (formed.buckets _ (mem_of_bucket? found)).2

theorem Ledger.WellFormed.add {kind : Record → Prop} {l : Ledger} {r : Record}
    (formed : l.WellFormed kind) (ofKind : kind r) : (l.add r).2.WellFormed kind where
  distinct := by
    rw [descriptors_add]
    split
    · exact formed.distinct
    · rename_i new
      refine List.nodup_append.2 ⟨formed.distinct, by simp, ?_⟩
      intro descriptor old other last same
      exact new (List.mem_singleton.1 last ▸ same ▸ old)
  buckets := by
    intro entry member
    rcases mem_buckets_add member with old | rfl
    · exact formed.buckets entry old
    · have sound := formed.bucket_sound r.descriptor
      exact ⟨sound.packets_add_ne_nil r, sound.add ⟨ofKind, rfl⟩⟩

/-- A ledger holds a packet once one was offered. -/
theorem Ledger.WellFormed.exists_packet_add {kind : Record → Prop} {l : Ledger}
    (formed : l.WellFormed kind) (r : Record) :
    ∃ packet, packet ∈ (l.add r).2.packets r.descriptor := by
  have nonempty := (formed.bucket_sound r.descriptor).packets_add_ne_nil r
  rw [packets, bucket_add, if_pos rfl]
  exact List.exists_mem_of_ne_nil _ nonempty

end RangeTest
