import RangeTest.Export.File
import RangeTest.Proofs.Effect
import RangeTest.Proofs.Text.Utf8
import RangeTest.Report

namespace RangeTest

theorem Sink.from_write (bytes : ByteArray) (sink : Sink) :
    Act.from (write bytes) sink =
      if sink.fits bytes.size then (.ok (), { sink with delivered := sink.delivered ++ bytes })
      else (.error .writerFull, sink) := by
  rw [write, Act.from_bind, Act.from_get]
  dsimp only
  split <;> rfl

theorem Sink.text_of_delivered {sink : Sink} {text : String}
    (delivered : sink.delivered = text.toUTF8) : sink.text = text := by
  rw [Sink.text, delivered, Text.fromUTF8?_toUTF8, Option.getD_some]

/-- A later state of a sink: some more text was delivered. -/
structure Sink.Extends (sink later : Sink) : Prop where
  capacity : later.capacity = sink.capacity
  delivered : ∃ text : String, later.delivered = sink.delivered ++ text.toUTF8

instance : IsPreorder Sink Sink.Extends where
  refl sink := ⟨rfl, "", by simp⟩
  trans := by
    rintro sink middle later ⟨limit, first, heard⟩ ⟨limit', second, heard'⟩
    refine ⟨limit'.trans limit, first ++ second, ?_⟩
    simp [heard', heard, ByteArray.append_assoc, String.toUTF8_eq_toByteArray]

theorem Sink.write_extends (text : String) : Act.Moves id Extends (write text.toUTF8) := by
  intro sink
  rw [from_write]
  split
  · exact ⟨rfl, text, rfl⟩
  · exact refl_of Extends sink

theorem Sink.writeAll_extends (fragments : List String) :
    Act.Moves id Extends (writeAll fragments) := by
  induction fragments with
  | nil => exact .pure ()
  | cons fragment fragments ih => exact (write_extends fragment).bind fun _ => ih

def Sink.bytes (sink : Sink) : List UInt8 :=
  sink.delivered.data.toList

/-- How an action may end that is to write a text to a sink: with all of it delivered, for which
there was room, or for want of room with a part of it, from the first byte on. -/
inductive Sink.Ends (before : Sink) (text : String) : Except ε α × Sink → Prop
  | written {value : α} {after : Sink} (capacity : after.capacity = before.capacity)
      (room : before.fits text.utf8ByteSize)
      (whole : after.bytes = before.bytes ++ Text.encode text.toList) :
      Ends before text (.ok value, after)
  | full {error : ε} {after : Sink} (beyond : ¬ before.fits text.utf8ByteSize)
      (delivered : after.bytes <+: before.bytes ++ Text.encode text.toList) :
      Ends before text (.error error, after)

/-- An action writes a text if it ends so from every sink that holds no more than it may. -/
def Sink.Writes (act : Act Sink ε α) (text : String) : Prop :=
  ∀ before, before.fits 0 → Ends before text (Act.from act before)

theorem Sink.length_bytes (sink : Sink) : sink.bytes.length = sink.delivered.size :=
  Array.length_toList

theorem Sink.fits_iff {sink : Sink} {size : Nat} :
    sink.fits size ↔ ∀ n, sink.capacity = some n → sink.bytes.length + size ≤ n := by
  rw [fits, length_bytes]
  split
  · rename_i unlimited
    simp [unlimited]
  · rename_i n limited
    simp [limited]

theorem Text.length_encode (s : String) : (encode s.toList).length = s.utf8ByteSize := by
  rw [← data_toUTF8]
  exact Array.length_toList

/-- What fits behind a text fits together with it in front of the text. -/
theorem Sink.fits_of_written {before after : Sink} {text : String} {size : Nat}
    (capacity : after.capacity = before.capacity)
    (whole : after.bytes = before.bytes ++ Text.encode text.toList) :
    after.fits size ↔ before.fits (text.utf8ByteSize + size) := by
  rw [fits_iff, fits_iff, capacity, whole, List.length_append, Text.length_encode, Nat.add_assoc]

theorem Sink.fits_mono {sink : Sink} {size more : Nat} (room : sink.fits more)
    (less : size ≤ more) : sink.fits size := by
  rw [fits_iff] at room ⊢
  exact fun n limited => Nat.le_trans (Nat.add_le_add_left less _) (room n limited)

/-- Room for two texts is room for the first one. -/
theorem Sink.fits_first {sink : Sink} {text more : String}
    (room : sink.fits (text ++ more).utf8ByteSize) : sink.fits text.utf8ByteSize := by
  refine fits_mono room ?_
  rw [String.utf8ByteSize_append]
  exact Nat.le_add_right _ _

theorem Sink.write_writes (text : String) : Writes (write text.toUTF8) text := by
  intro before _
  rw [from_write]
  split
  · rename_i room
    refine .written rfl room ?_
    rw [bytes, ← Text.data_toUTF8, bytes, ByteArray.data_append, Array.toList_append]
  · rename_i beyond
    exact .full beyond (List.prefix_append _ _)

theorem Sink.Writes.mapError {act : Act Sink ε α} {text : String} (f : ε → ε')
    (writes : Writes act text) : Writes (Act.mapError f act) text := by
  intro before within
  rw [Act.from_mapError]
  have ends := writes before within
  generalize Act.from act before = result at ends
  cases ends with
  | written capacity room whole => exact .written capacity room whole
  | full beyond delivered => exact .full beyond delivered

/-- Two texts are written one behind the other. What the first one leaves over is all that the
second one can have. -/
theorem Sink.Writes.bind {act : Act Sink ε α} {next : α → Act Sink ε β} {text more : String}
    (first : Writes act text) (second : ∀ value, Writes (next value) more) :
    Writes (act >>= next) (text ++ more) := by
  intro before within
  rw [Act.from_bind]
  have began := first before within
  generalize Act.from act before = result at began
  cases began with
  | written capacity room whole =>
    rename_i middle value
    have within' : middle.fits 0 := (fits_of_written capacity whole).2 room
    have went := second value middle within'
    dsimp only
    generalize Act.from (next value) middle = last at went
    cases went with
    | written capacity' room' whole' =>
      refine .written (capacity'.trans capacity) ?_ ?_
      · rw [String.utf8ByteSize_append, ← fits_of_written capacity whole]
        exact room'
      · rw [whole', whole, String.toList_append, Text.encode_append, List.append_assoc]
    | full beyond delivered =>
      refine .full ?_ ?_
      · rw [String.utf8ByteSize_append, ← fits_of_written capacity whole]
        exact beyond
      · rwa [whole, List.append_assoc, ← Text.encode_append, ← String.toList_append] at delivered
  | full beyond delivered =>
    refine .full (fun room => beyond (fits_first room)) ?_
    rw [String.toList_append, Text.encode_append, ← List.append_assoc]
    exact delivered.trans (List.prefix_append _ _)

/-- A text is written in whatever fragments it comes. -/
theorem Sink.writeAll_writes (fragments : List String) :
    Writes (writeAll fragments) (String.join fragments) := by
  induction fragments with
  | nil =>
    intro before within
    exact .written rfl within (List.append_nil _).symm
  | cons fragment fragments ih =>
    rw [String.join_cons]
    exact (write_writes fragment).bind fun _ => ih

/-- The sink after a text was delivered to it. -/
def Sink.put (sink : Sink) (text : String) : Sink :=
  { sink with delivered := sink.delivered ++ text.toUTF8 }

@[simp] theorem Sink.put_empty (sink : Sink) : sink.put "" = sink := by
  simp [put]

theorem Sink.bytes_put (sink : Sink) (text : String) :
    (sink.put text).bytes = sink.bytes ++ Text.encode text.toList := by
  rw [bytes, put, bytes, ByteArray.data_append, Array.toList_append, Text.data_toUTF8]

theorem Sink.fits_put {sink : Sink} {text : String} {size : Nat} :
    (sink.put text).fits size ↔ sink.fits (text.utf8ByteSize + size) :=
  fits_of_written rfl (bytes_put sink text)

/-- Room for two texts is room for the second one behind the first one. -/
theorem Sink.fits_second {sink : Sink} {text more : String}
    (room : sink.fits (text ++ more).utf8ByteSize) : (sink.put text).fits more.utf8ByteSize := by
  rw [fits_put, ← String.utf8ByteSize_append]
  exact room

theorem Sink.put_append (sink : Sink) (text more : String) :
    sink.put (text ++ more) = (sink.put text).put more := by
  simp [put, ByteArray.append_assoc, String.toUTF8_eq_toByteArray]

theorem Sink.eq_put {before after : Sink} {text : String}
    (capacity : after.capacity = before.capacity)
    (whole : after.bytes = before.bytes ++ Text.encode text.toList) : after = before.put text := by
  rw [← bytes_put] at whole
  obtain ⟨limit, delivered⟩ := after
  cases capacity
  exact congrArg _ (ByteArray.ext (Array.toList_inj.1 whole))

/-- Where there is room for a text, it is delivered. -/
theorem Sink.Writes.from_of_room {act : Act Sink ε Unit} {text : String} (writes : Writes act text)
    {sink : Sink} (room : sink.fits text.utf8ByteSize) :
    Act.from act sink = (.ok (), sink.put text) := by
  have ends := writes sink (fits_mono room (Nat.zero_le _))
  generalize Act.from act sink = reached at ends
  cases ends with
  | written capacity _ whole => rw [eq_put capacity whole]
  | full beyond _ => exact absurd room beyond

/-- A sink without a limit has room for every text. -/
theorem Sink.Writes.from_unlimited {act : Act Sink ε Unit} {text : String}
    (writes : Writes act text) : Act.from act .unlimited = (.ok (), ⟨none, text.toUTF8⟩) := by
  have whole : unlimited.put text = ⟨none, text.toUTF8⟩ :=
    congrArg (Sink.mk none) ByteArray.empty_append
  rw [writes.from_of_room rfl, whole]

theorem Report.write_writes (title : String) (links : List LinkSummary) :
    Sink.Writes (write title links) (text title links) :=
  Sink.writeAll_writes (fragments title links)

theorem Summary.write_writes (rxLog txLog : String) (a : Analysis) :
    Sink.Writes (write rxLog txLog a) (text rxLog txLog a) := by
  have ending : String.join ["\n"] = "\n" := rfl
  have json := (Sink.writeAll_writes (Json.fragments 0 (.ofAnalysis rxLog txLog a))).mapError
    ExportError.json
  exact json.bind fun _ => ending ▸ (Sink.writeAll_writes ["\n"]).mapError ExportError.io

end RangeTest
