import RangeTest.Analysis
import RangeTest.Decimal.Style
import RangeTest.Frame
import RangeTest.Record
import RangeTest.Survey.Resolver

namespace RangeTest

abbrev Row := List String

def Row.header : Row :=
  ["Rx_link_addr", "Tx_link_addr", "Rx_node_id", "Tx_node_id", "MCS", "Packet_nr", "Timestamp",
    "Payload_len", "Packet_size", "Airtime_us", "Received_power", "Rssi_offset", "Lqi", "Tx_power",
    "Channel", "Channel_center_freq_0", "Channel_spacing", "Channel_center_freq_curr", "Bitrate",
    "Symbol_rate", "Rx_filt_bw", "Preamble_nibbles", "Preamble_word", "Crc_poly", "Crc_init",
    "Sync_word", "Sync_word_thr", "Dual_sync_en", "Sync_bits", "Freq_dev", "Mac_hdr_len",
    "Rx_height", "Tx_height", "Rx_antenna", "Tx_antenna", "Rx_temperature", "Tx_temperature",
    "Distance_from_tx", "Is_line_of_sight", "Average_received_power", "Packet_loss"]

/-- The heading over a column of the log. -/
def Column.heading : Column → String
  | descriptor => "MCS"
  | packetNr => "Packet_nr"
  | payloadLen => "Payload_len"
  | rssi => "Received_power"
  | rssiOffset => "Rssi_offset"
  | lqi => "Lqi"
  | txPower => "Tx_power"
  | channel => "Channel"
  | channelCenterFreq0 => "Channel_center_freq_0"
  | channelSpacing => "Channel_spacing"
  | channelCenterFreqCurr => "Channel_center_freq_curr"
  | bitrate => "Bitrate"
  | symbolRate => "Symbol_rate"
  | rxFiltBw => "Rx_filt_bw"
  | preambleNibbles => "Preamble_nibbles"
  | preambleWord => "Preamble_word"
  | crcPoly => "Crc_poly"
  | crcInit => "Crc_init"
  | syncWord => "Sync_word"
  | syncWordThr => "Sync_word_thr"
  | dualSyncEn => "Dual_sync_en"
  | syncBits => "Sync_bits"
  | freqDev => "Freq_dev"
  | macHdrLen => "Mac_hdr_len"
  | rxLinkAddr => "Rx_link_addr"
  | txLinkAddr => "Tx_link_addr"

/-- The cell of a row under a heading. -/
def Row.cell? (row : Row) (heading : String) : Option String :=
  ((header.zip row).find? (·.1 == heading)).map (·.2)

/-- What the survey says about both ends of a link. -/
structure LinkSite where
  rx : NodeInfo
  tx : NodeInfo
  distance : Float
  lineOfSight : LineOfSight

/-- Looks up both ends of a link, first the receiver, and what lies between them. -/
def LinkSite.resolve (resolver : Resolver σ) (link : LinkSummary) :
    Act σ ExportError LinkSite := do
  let rx ← resolver.nodeInfo link.receiver
  let tx ← resolver.nodeInfo link.sender
  let lineOfSight ← resolver.lineOfSight rx.id tx.id
  return { rx, tx, lineOfSight, distance := rx.position.distance tx.position }

/-- Asks the survey, where there is one. -/
def LinkSite.resolve? (resolver : Option (Resolver σ)) (link : LinkSummary) :
    Act σ ExportError (Option LinkSite) :=
  match resolver with
  | some resolver => some <$> resolve resolver link
  | none => pure none

/-- A cell that is empty where there is nothing to write. -/
def Row.optional (write : α → String) : Option α → String
  | some value => write value
  | none => ""

def Row.ofRecord (r : Record) (link : LinkSummary) (site : Option LinkSite) (frame : Frame) : Row :=
  let logged (column : Column) := String.ofList (r.field column)
  let survey (write : LinkSite → String) := optional write site
  [logged .rxLinkAddr, logged .txLinkAddr, survey (·.rx.id), survey (·.tx.id),
    logged .descriptor, logged .packetNr,
    optional (fun moment => String.ofList (moment.write 6)) r.capturedAt,
    logged .payloadLen, toString frame.sizeBytes.toNat, optional toString frame.airtimeMicros,
    logged .rssi, logged .rssiOffset, logged .lqi, logged .txPower, logged .channel,
    logged .channelCenterFreq0, logged .channelSpacing, logged .channelCenterFreqCurr,
    logged .bitrate, logged .symbolRate, logged .rxFiltBw, logged .preambleNibbles,
    logged .preambleWord, logged .crcPoly, logged .crcInit, logged .syncWord,
    logged .syncWordThr, logged .dualSyncEn, logged .syncBits, logged .freqDev,
    logged .macHdrLen, survey (FloatText.table ·.rx.height), survey (FloatText.table ·.tx.height),
    survey (·.rx.antenna), survey (·.tx.antenna), survey (FloatText.table ·.rx.temperature),
    survey (FloatText.table ·.tx.temperature), survey (FloatText.table ·.distance),
    survey (·.lineOfSight.text), optional FloatText.table link.averageRssi,
    optional FloatText.table link.lossPercent]

/-- The row of one packet of a link. -/
def Row.ofPacket (link : LinkSummary) (site : Option LinkSite) (lengthField : UInt32)
    (r : Record) : Except ExportError Row := do
  let frame ← Frame.ofRecord r lengthField
  return ofRecord r link site frame

/-- The link that a summary is about, if it is known. -/
def Analysis.link? (a : Analysis) (link : LinkSummary) : Option Link :=
  (a.correlator.nodes.get? link.receiver).bind (·.links.get? link.sender)

/-- The rows of one link; a link that is not known has none. The survey is asked before any row is
made. -/
def Row.ofLink (a : Analysis) (resolver : Option (Resolver σ)) (lengthField : UInt32)
    (link : LinkSummary) : Act σ ExportError (List Row) :=
  match a.link? link with
  | none => return []
  | some l => do
    let site ← LinkSite.resolve? resolver link
    (l.received.packets link.descriptor).mapM fun r =>
      MonadExcept.ofExcept (ofPacket link site lengthField r)

/-- One row for every received packet of a reported descriptor. Without a survey the cells on the
site stay empty. -/
def Analysis.rows (a : Analysis) (resolver : Option (Resolver σ)) (lengthField : UInt32) :
    Act σ ExportError (List Row) := do
  let groups ← (a.links.filter (0 < ·.received)).mapM (Row.ofLink a resolver lengthField)
  return groups.flatten

end RangeTest
