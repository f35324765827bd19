import RangeTest.Calendar.Reader
import RangeTest.Record
import RangeTest.Text.Parts

namespace RangeTest

/-- Why the text after a tag is not a record. -/
inductive RecordFault where
  | fieldCount (found : Nat)
  | emptyField (column : Column)
  | invalidNumber (column : Column) (text : String)
  deriving DecidableEq, Repr

def RecordFault.message : RecordFault → String
  | fieldCount found => s!"expected {Column.all.length} fields after the tag, found {found}"
  | emptyField column => s!"field '{column.name}' is empty"
  | invalidNumber column text => s!"field '{column.name}' is not a valid number: '{text}'"

/-- What a line of a log turns out to be. -/
inductive LineReading where
  | matched (record : Record)
  /-- The line carries no tag. -/
  | skipped
  | malformed (fault : RecordFault)
  deriving DecidableEq

/-- Reads a record column by column; the state is the fields that are still to come. -/
abbrev FieldReader := StateT (List (List Char)) (Except RecordFault)

/-- Takes the next field off the row; a row that has run out goes on with empty fields. -/
def FieldReader.next : FieldReader (List Char) := do
  match ← get with
  | [] => return []
  | field :: rest =>
    set rest
    return field

/-- Any text but the empty one. -/
def FieldReader.text (column : Column) : FieldReader String := do
  let field ← next
  if field.isEmpty then throw (.emptyField column)
  return String.ofList field

def FieldReader.unsigned (column : Column) : FieldReader UInt32 := do
  let field ← next
  match Numeral.unsigned? field with
  | some n => return n
  | none => throw (.invalidNumber column (String.ofList field))

def FieldReader.signed (column : Column) : FieldReader Int32 := do
  let field ← next
  match Numeral.signed? field with
  | some n => return n
  | none => throw (.invalidNumber column (String.ofList field))

/-- Reads all columns after the capture time. -/
def FieldReader.record (capturedAt : Option Moment) : FieldReader Record := do
  return {
    capturedAt
    descriptor := ← text .descriptor
    packetNr := ← unsigned .packetNr
    payloadLen := ← unsigned .payloadLen
    rssi := ← signed .rssi
    rssiOffset := ← signed .rssiOffset
    lqi := ← unsigned .lqi
    txPower := ← unsigned .txPower
    channel := ← unsigned .channel
    channelCenterFreq0 := ← unsigned .channelCenterFreq0
    channelSpacing := ← unsigned .channelSpacing
    channelCenterFreqCurr := ← unsigned .channelCenterFreqCurr
    bitrate := ← unsigned .bitrate
    symbolRate := ← unsigned .symbolRate
    rxFiltBw := ← unsigned .rxFiltBw
    preambleNibbles := ← unsigned .preambleNibbles
    preambleWord := ← text .preambleWord
    crcPoly := ← text .crcPoly
    crcInit := ← text .crcInit
    syncWord := ← text .syncWord
    syncWordThr := ← unsigned .syncWordThr
    dualSyncEn := ← unsigned .dualSyncEn
    syncBits := ← unsigned .syncBits
    freqDev := ← unsigned .freqDev
    macHdrLen := ← unsigned .macHdrLen
    rxLinkAddr := ← text .rxLinkAddr
    txLinkAddr := ← text .txLinkAddr }

/-- One field for each column. Only a descriptor may hold the separator, so surplus pieces at the
front are parts of it. -/
def Record.foldSurplus (pieces : List (List Char)) : List (List Char) :=
  let surplus := pieces.length - Column.all.length
  Text.unfields (pieces.take (surplus + 1)) :: pieces.drop (surplus + 1)

/-- Reads the text after a tag. -/
def Record.ofPayload (capturedAt : Option Moment) (payload : List Char) :
    Except RecordFault Record :=
  let pieces := Text.fields payload
  if pieces.length < Column.all.length then throw (.fieldCount pieces.length)
  else (FieldReader.record capturedAt).run' (foldSurplus pieces)

/-- The mark that a timestamper puts after the capture time and after the time elapsed. -/
def Record.captureMark : List Char := " | ".toList

/-- The capture time at the beginning of what stands before a tag. -/
def Record.captureTime? (lead : List Char) : Option Moment := do
  let (first, _) ← Text.cut? captureMark lead
  Moment.read? (Text.trim first)

/-- Reads a line of a log, with or without its terminator. The first occurrence of the tag
counts. -/
def Record.ofLine (tag line : String) : LineReading :=
  match Text.cut? tag.toList (Text.trimEnd line.toList) with
  | none => .skipped
  | some (lead, payload) =>
    match ofPayload (captureTime? lead) payload with
    | .ok record => .matched record
    | .error fault => .malformed fault

end RangeTest
