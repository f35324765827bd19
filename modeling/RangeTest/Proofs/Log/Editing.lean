import RangeTest.Proofs.Log.FirstBad
import RangeTest.Proofs.Text.Cut

namespace RangeTest

/-- How a line ends. -/
inductive LineEnd where
  | lf
  | crlf
  deriving DecidableEq, Repr

def LineEnd.chars : LineEnd → List Char
  | lf => ['\n']
  | crlf => ['\r', '\n']

/-- What is done to a log in one place. -/
inductive LineEdit (tag : String) where
  /-- A line stays. Blanks may come behind its text, and its end may be exchanged. -/
  | kept (body : List UInt8) (oneLine : 10 ∉ body) (old : LineEnd) (blanks : List Char)
      (blank : ∀ c ∈ blanks, Text.isBlank c = true ∧ c ≠ '\n') (new : LineEnd)
  /-- A line without the tag is put in. -/
  | inserted (body : List Char) (oneLine : '\n' ∉ body) (untagged : ¬ tag.toList <:+: body)
      (ending : LineEnd)

/-- The line that stood there before. -/
def LineEdit.original? {tag : String} : LineEdit tag → Option (List UInt8)
  | kept body _ old _ _ _ => some (body ++ Text.encode old.chars)
  | inserted .. => none

/-- The line that stands there now. -/
def LineEdit.edited {tag : String} : LineEdit tag → List UInt8
  | kept body _ _ blanks _ new => body ++ Text.encode (blanks ++ new.chars)
  | inserted body _ _ ending => Text.encode (body ++ ending.chars)

def LineEdit.originalLog {tag : String} (edits : List (LineEdit tag)) : ByteArray :=
  (edits.filterMap original?).flatten.toByteArray

def LineEdit.editedLog {tag : String} (edits : List (LineEdit tag)) : ByteArray :=
  (edits.map edited).flatten.toByteArray

/-- The lines that a reader finds in the log as it was. -/
def LineEdit.originalLines {tag : String} (edits : List (LineEdit tag)) : List RawLine :=
  edits.filterMap fun edit => edit.original?.map Text.decodeLine

/-- The lines that a reader finds in the edited log. -/
def LineEdit.editedLines {tag : String} (edits : List (LineEdit tag)) : List RawLine :=
  edits.map fun edit => Text.decodeLine edit.edited

/-- How many lines are put in. -/
def LineEdit.insertions {tag : String} (edits : List (LineEdit tag)) : Nat :=
  edits.countP (·.original?.isNone)

/-- The same error that many lines further down. -/
def LoadError.moveDown (lines : Nat) : LoadError → LoadError
  | unreadable source line cause => .unreadable source (line + lines) cause
  | malformed source line fault => .malformed source (line + lines) fault

theorem LineEnd.exists_body {body : List UInt8} (oneLine : 10 ∉ body) (ending : LineEnd) :
    ∃ longer, 10 ∉ longer ∧ body ++ Text.encode ending.chars = longer ++ [10] := by
  cases ending with
  | lf => exact ⟨body, oneLine, rfl⟩
  | crlf => exact ⟨body ++ [13], by simpa using oneLine, by rw [List.append_assoc]; rfl⟩

theorem LineEnd.blank (ending : LineEnd) : ∀ c ∈ ending.chars, Text.isBlank c = true := by
  cases ending with
  | lf => exact List.forall_mem_singleton.2 rfl
  | crlf => exact List.forall_mem_cons.2 ⟨rfl, List.forall_mem_singleton.2 rfl⟩

section
variable {tag : String}

theorem LineEdit.original?_terminated {edit : LineEdit tag} {line : List UInt8}
    (stood : edit.original? = some line) : ∃ body, 10 ∉ body ∧ line = body ++ [10] := by
  cases edit with
  | kept body oneLine old blanks blank new =>
    cases stood
    exact old.exists_body oneLine
  | inserted => cases stood

theorem LineEdit.edited_terminated (edit : LineEdit tag) :
    ∃ body, 10 ∉ body ∧ edit.edited = body ++ [10] := by
  cases edit with
  | kept body oneLine old blanks blank new =>
    rw [edited, Text.encode_append, ← List.append_assoc]
    refine new.exists_body fun member => ?_
    obtain inBody | inBlanks := List.mem_append.1 member
    · exact oneLine inBody
    · exact (blank _ (Text.mem_encode_of_short (by decide) rfl inBlanks)).2 rfl
  | inserted body oneLine untagged ending =>
    rw [edited, Text.encode_append]
    exact ending.exists_body fun member =>
      oneLine (Text.mem_encode_of_short (by decide) rfl member)

end

/-- What is read in a line does not depend on blanks at its end. -/
theorem Record.ofLine_append_blank {blanks : List Char}
    (blank : ∀ c ∈ blanks, Text.isBlank c = true) (tag line : String) :
    ofLine tag (line ++ String.ofList blanks) = ofLine tag line := by
  have trimmed : Text.trimEnd (line ++ String.ofList blanks).toList = Text.trimEnd line.toList := by
    rw [String.toList_append, String.toList_ofList, Text.trimEnd_append,
      if_pos (Text.trimEnd_of_blank blank)]
  rw [ofLine, trimmed, ofLine]

theorem Record.ofLine_of_untagged {tag line : String} (untagged : ¬ tag.toList <:+: line.toList) :
    ofLine tag line = .skipped := by
  have absent : ¬ tag.toList <:+: Text.trimEnd line.toList := fun occurs =>
    untagged (occurs.trans (Text.isPrefix_trimEnd line.toList).isInfix)
  rw [ofLine, Text.cut?_eq_none_iff.2 absent]

section
variable {settings : LogSettings} {edits : List (LineEdit settings.tag)}

theorem LogSettings.reading_append_blank {blanks : List Char}
    (blank : ∀ c ∈ blanks, Text.isBlank c = true) (bytes : List UInt8) :
    settings.reading (Text.decodeLine (bytes ++ Text.encode blanks)) =
      settings.reading (Text.decodeLine bytes) := by
  rw [Text.decodeLine_append]
  cases Text.decodeLine bytes with
  | error cause => rfl
  | ok line => exact congrArg Except.ok (Record.ofLine_append_blank blank settings.tag line)

theorem LineEdit.reading_kept {edit : LineEdit settings.tag} {line : List UInt8}
    (stood : edit.original? = some line) :
    settings.reading (Text.decodeLine edit.edited) = settings.reading (Text.decodeLine line) := by
  cases edit with
  | kept body oneLine old blanks blank new =>
    cases stood
    have allBlank : ∀ c ∈ blanks ++ new.chars, Text.isBlank c = true := fun c member =>
      (List.mem_append.1 member).elim (fun h => (blank c h).1) (new.blank c)
    rw [edited, LogSettings.reading_append_blank allBlank,
      LogSettings.reading_append_blank old.blank]
  | inserted => cases stood

theorem LineEdit.reading_inserted {edit : LineEdit settings.tag} (new : edit.original? = none) :
    settings.reading (Text.decodeLine edit.edited) = .ok .skipped := by
  cases edit with
  | kept => cases new
  | inserted body oneLine untagged ending =>
    rw [edited, Text.encode_append, LogSettings.reading_append_blank ending.blank,
      Text.decodeLine_encode]
    exact congrArg Except.ok (Record.ofLine_of_untagged (by rwa [String.toList_ofList]))

theorem LineEdit.rawLines_originalLog :
    Text.rawLines (originalLog edits) = originalLines edits := by
  rw [originalLog, Text.rawLines_flatten, originalLines, List.map_filterMap]
  intro line member
  obtain ⟨edit, _, stood⟩ := List.mem_filterMap.1 member
  exact original?_terminated stood

theorem LineEdit.rawLines_editedLog : Text.rawLines (editedLog edits) = editedLines edits := by
  rw [editedLog, Text.rawLines_flatten, editedLines, List.map_map]
  · rfl
  · intro line member
    obtain ⟨edit, _, rfl⟩ := List.mem_map.1 member
    exact edited_terminated edit

theorem LineEdit.record?_editedLines :
    (editedLines edits).filterMap settings.record? =
      (originalLines edits).filterMap settings.record? := by
  rw [editedLines, originalLines, List.filterMap_map, List.filterMap_filterMap]
  refine List.filterMap_congr fun edit _ => ?_
  cases stood : edit.original? with
  | none =>
    rw [Function.comp, LogSettings.record?, reading_inserted stood]
    rfl
  | some line =>
    rw [Function.comp, LogSettings.record?, reading_kept stood]
    rfl

theorem LineEdit.bad_edited_iff {edit : LineEdit settings.tag} :
    settings.Bad (Text.decodeLine edit.edited) ↔
      ∃ line, edit.original? = some line ∧ settings.Bad (Text.decodeLine line) := by
  cases stood : edit.original? with
  | none =>
    rw [LogSettings.Bad, reading_inserted stood]
    simp
  | some line =>
    rw [LogSettings.Bad, reading_kept stood]
    simp [LogSettings.Bad]

theorem LineEdit.sound_editedLines
    (sound : ∀ line ∈ originalLines edits, ¬ settings.Bad line) :
    ∀ line ∈ editedLines edits, ¬ settings.Bad line := by
  intro line member bad
  obtain ⟨edit, inside, rfl⟩ := List.mem_map.1 member
  obtain ⟨old, stood, wasBad⟩ := bad_edited_iff.1 bad
  refine sound _ (List.mem_filterMap.2 ⟨edit, inside, ?_⟩) wasBad
  rw [stood]
  rfl

theorem LineEdit.originalLines_cons (edit : LineEdit settings.tag) :
    originalLines (edit :: edits) =
      (edit.original?.map Text.decodeLine).toList ++ originalLines edits := by
  rw [originalLines, List.filterMap_cons]
  cases edit.original?.map Text.decodeLine <;> rfl

theorem LineEdit.insertions_cons (edit : LineEdit settings.tag)
    (edits : List (LineEdit settings.tag)) :
    insertions (edit :: edits) = insertions [edit] + insertions edits := by
  rw [insertions, insertions, insertions, ← List.countP_append, List.singleton_append]

theorem LineEdit.tally_edited (edit : LineEdit settings.tag) :
    settings.tally [Text.decodeLine edit.edited] =
      (settings.tally (edit.original?.map Text.decodeLine).toList).plus
        { skipped := insertions [edit] } := by
  cases stood : edit.original? with
  | none => simp [LogSettings.tally, Counters.plus, insertions, stood, reading_inserted stood]
  | some line => simp [LogSettings.tally, Counters.plus, insertions, stood, reading_kept stood]

/-- Lines that are put in count as skipped, and nothing else is counted otherwise than before. -/
theorem LineEdit.tally_editedLines :
    settings.tally (editedLines edits) =
      (settings.tally (originalLines edits)).plus { skipped := insertions edits } := by
  induction edits with
  | nil => rfl
  | cons edit edits ih =>
    change settings.tally ([Text.decodeLine edit.edited] ++ editedLines edits) = _
    rw [LogSettings.tally_append, ih, tally_edited, originalLines_cons, LogSettings.tally_append,
      insertions_cons edit edits]
    simp only [Counters.plus, Counters.mk.injEq]
    omega

theorem LineEdit.length_editedLines :
    (editedLines edits).length = (originalLines edits).length + insertions edits := by
  induction edits with
  | nil => rfl
  | cons edit edits ih =>
    have here : (edit.original?.map Text.decodeLine).toList.length + insertions [edit] = 1 := by
      cases stood : edit.original? <;> simp [insertions, stood]
    rw [originalLines_cons, List.length_append, insertions_cons edit edits]
    change (editedLines edits).length + 1 = _
    omega

/-- The first bad line of a log stays the first one, as many lines further down as are put in
before it. -/
theorem LineEdit.firstBad_edited {source : String} {edit : LineEdit settings.tag}
    {line : List UInt8} {error : LoadError} (stood : edit.original? = some line)
    (first : settings.FirstBad source (originalLines edits) (Text.decodeLine line) error) :
    settings.FirstBad source (editedLines edits) (Text.decodeLine edit.edited)
      (error.moveDown (insertions edits)) where
  sound := sound_editedLines first.sound
  refused := by
    rw [length_editedLines]
    cases first.refused with
    | unreadable read => exact .unreadable ((reading_kept stood).trans read)
    | malformed read strict =>
      rw [LoadError.moveDown, Nat.add_right_comm]
      exact .malformed ((reading_kept stood).trans read) strict

/-- A line that a reader found stands at one of the edits. -/
theorem LineEdit.exists_of_originalLines {before after : List RawLine} {line : RawLine}
    (split : originalLines edits = before ++ line :: after) :
    ∃ earlier edit later bytes, edits = earlier ++ edit :: later ∧
      edit.original? = some bytes ∧ line = Text.decodeLine bytes ∧
      originalLines earlier = before := by
  obtain ⟨first, rest, rfl, front, back⟩ := List.filterMap_eq_append_iff.1 split
  obtain ⟨new, edit, later, rfl, noneBefore, here, _⟩ := List.filterMap_eq_cons_iff.1 back
  obtain ⟨bytes, stood, rfl⟩ := Option.map_eq_some_iff.1 here
  refine ⟨first ++ new, edit, later, bytes, (List.append_assoc ..).symm, stood, rfl, ?_⟩
  rw [originalLines, List.filterMap_append, front, List.filterMap_eq_nil_iff.2 noneBefore,
    List.append_nil]

end

/-- Where the analysis of two logs stops, of which each is the original of some edits: at the first
bad line of the receive log or, if that has none, of the transmit log. Some lines are put in in
front of that line in its log. -/
inductive Analysis.StopsBehind (rxName txName : String) (rxSettings txSettings : LogSettings) :
    List (LineEdit rxSettings.tag) → List (LineEdit txSettings.tag) → Nat → LoadError → Prop
  | received {before after edit tx line error} : edit.original? = some line →
      rxSettings.FirstBad rxName (LineEdit.originalLines before) (Text.decodeLine line) error →
      StopsBehind rxName txName rxSettings txSettings (before ++ edit :: after) tx
        (LineEdit.insertions before) error
  | transmitted {rx before after edit line error} :
      (∀ other ∈ LineEdit.originalLines rx, ¬ rxSettings.Bad other) →
      edit.original? = some line →
      txSettings.FirstBad txName (LineEdit.originalLines before) (Text.decodeLine line) error →
      StopsBehind rxName txName rxSettings txSettings rx (before ++ edit :: after)
        (LineEdit.insertions before) error

section
variable {rxName txName : String} {rxSettings txSettings : LogSettings}
  {rx : List (LineEdit rxSettings.tag)} {tx : List (LineEdit txSettings.tag)} {error : LoadError}

theorem Analysis.StopsAt.exists_stopsBehind
    (stops : StopsAt rxName txName rxSettings txSettings (LineEdit.originalLines rx)
      (LineEdit.originalLines tx) error) :
    ∃ inserted, StopsBehind rxName txName rxSettings txSettings rx tx inserted error := by
  generalize rxLines : LineEdit.originalLines rx = rxRead at stops
  generalize txLines : LineEdit.originalLines tx = txRead at stops
  cases stops with
  | received first =>
    obtain ⟨before, edit, after, line, rfl, stood, rfl, rfl⟩ :=
      LineEdit.exists_of_originalLines rxLines
    exact ⟨_, .received stood first⟩
  | transmitted sound first =>
    subst rxLines
    obtain ⟨before, edit, after, line, rfl, stood, rfl, rfl⟩ :=
      LineEdit.exists_of_originalLines txLines
    exact ⟨_, .transmitted sound stood first⟩

theorem Analysis.StopsBehind.stopsAt {inserted : Nat}
    (stops : StopsBehind rxName txName rxSettings txSettings rx tx inserted error) :
    StopsAt rxName txName rxSettings txSettings (LineEdit.editedLines rx)
      (LineEdit.editedLines tx) (error.moveDown inserted) := by
  cases stops with
  | received stood first =>
    rw [LineEdit.editedLines, List.map_append, List.map_cons]
    exact .received (LineEdit.firstBad_edited stood first)
  | transmitted sound stood first =>
    rw [LineEdit.editedLines, LineEdit.editedLines, List.map_append, List.map_cons]
    exact .transmitted (LineEdit.sound_editedLines sound) (LineEdit.firstBad_edited stood first)

end

/-- Lines without the tag, blanks behind the text of a line and the ends of the lines do not change
what comes of two logs. Lines that are put in count as skipped and move an error down. -/
theorem Analysis.correlate_edited (rxName txName : String) (rxSettings txSettings : LogSettings)
    (rx : List (LineEdit rxSettings.tag)) (tx : List (LineEdit txSettings.tag)) :
    let original := (correlate
      (.start rxName rxSettings (Text.rawLines (LineEdit.originalLog rx)))
      (.start txName txSettings (Text.rawLines (LineEdit.originalLog tx)))).1
    let edited := (correlate
      (.start rxName rxSettings (Text.rawLines (LineEdit.editedLog rx)))
      (.start txName txSettings (Text.rawLines (LineEdit.editedLog tx)))).1
    (∀ a, original = .ok a → edited = .ok { a with
        rxCounters := { a.rxCounters with
          skipped := a.rxCounters.skipped + LineEdit.insertions rx }
        txCounters := { a.txCounters with
          skipped := a.txCounters.skipped + LineEdit.insertions tx } }) ∧
      ∀ error, original = .error error → ∃ inserted,
        StopsBehind rxName txName rxSettings txSettings rx tx inserted error ∧
          edited = .error (error.moveDown inserted) := by
  intro original edited
  simp only [original, edited, LineEdit.rawLines_originalLog, LineEdit.rawLines_editedLog]
  constructor
  · intro a success
    obtain ⟨soundRx, soundTx⟩ := correlate_ok_iff.1 ⟨a, success⟩
    cases success.symm.trans (correlate_of_sound rxName txName soundRx soundTx)
    rw [correlate_of_sound rxName txName (LineEdit.sound_editedLines soundRx)
      (LineEdit.sound_editedLines soundTx)]
    simp only [LineEdit.record?_editedLines, LineEdit.tally_editedLines]
    rfl
  · intro error failure
    obtain ⟨inserted, stops⟩ := (correlate_error_iff.1 failure).exists_stopsBehind
    exact ⟨inserted, stops, stops.stopsAt.correlate_eq⟩

end RangeTest
