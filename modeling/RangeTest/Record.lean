import RangeTest.Calendar.Moment
import RangeTest.Text.Parts

namespace RangeTest

/-- The columns of a logged packet, in the order in which a node prints them. -/
inductive Column where
  | descriptor
  | packetNr
  | payloadLen
  | rssi
  | rssiOffset
  | lqi
  | txPower
  | channel
  | channelCenterFreq0
  | channelSpacing
  | channelCenterFreqCurr
  | bitrate
  | symbolRate
  | rxFiltBw
  | preambleNibbles
  | preambleWord
  | crcPoly
  | crcInit
  | syncWord
  | syncWordThr
  | dualSyncEn
  | syncBits
  | freqDev
  | macHdrLen
  | rxLinkAddr
  | txLinkAddr
  deriving DecidableEq, Repr

/-- All columns from left to right. -/
def Column.all : List Column :=
  [descriptor, packetNr, payloadLen, rssi, rssiOffset, lqi, txPower, channel, channelCenterFreq0,
    channelSpacing, channelCenterFreqCurr, bitrate, symbolRate, rxFiltBw, preambleNibbles,
    preambleWord, crcPoly, crcInit, syncWord, syncWordThr, dualSyncEn, syncBits, freqDev,
    macHdrLen, rxLinkAddr, txLinkAddr]

def Column.name : Column → String
  | descriptor => "descriptor"
  | packetNr => "packet_nr"
  | payloadLen => "payload_len"
  | rssi => "rssi"
  | rssiOffset => "rssi_offset"
  | lqi => "lqi"
  | txPower => "tx_power"
  | channel => "channel"
  | channelCenterFreq0 => "channel_center_freq_0"
  | channelSpacing => "channel_spacing"
  | channelCenterFreqCurr => "channel_center_freq_curr"
  | bitrate => "bitrate"
  | symbolRate => "symbol_rate"
  | rxFiltBw => "rx_filt_bw"
  | preambleNibbles => "preamble_nibbles"
  | preambleWord => "preamble_word"
  | crcPoly => "crc_poly"
  | crcInit => "crc_init"
  | syncWord => "sync_word"
  | syncWordThr => "sync_word_thr"
  | dualSyncEn => "dual_sync_en"
  | syncBits => "sync_bits"
  | freqDev => "freq_dev"
  | macHdrLen => "mac_hdr_len"
  | rxLinkAddr => "rx_link_addr"
  | txLinkAddr => "tx_link_addr"

/-- One packet as a node logged it when it was sent or received. -/
structure Record where
  /-- When the line was captured, where a capture time stands in front of it. -/
  capturedAt : Option Moment
  descriptor : String
  packetNr : UInt32
  payloadLen : UInt32
  rssi : Int32
  rssiOffset : Int32
  lqi : UInt32
  txPower : UInt32
  channel : UInt32
  channelCenterFreq0 : UInt32
  channelSpacing : UInt32
  channelCenterFreqCurr : UInt32
  bitrate : UInt32
  symbolRate : UInt32
  rxFiltBw : UInt32
  preambleNibbles : UInt32
  preambleWord : String
  crcPoly : String
  crcInit : String
  syncWord : String
  syncWordThr : UInt32
  dualSyncEn : UInt32
  syncBits : UInt32
  freqDev : UInt32
  macHdrLen : UInt32
  rxLinkAddr : String
  txLinkAddr : String
  deriving DecidableEq

/-- A sender logs its own packets with its address on both sides. -/
def Record.isTransmission (r : Record) : Bool :=
  r.rxLinkAddr == r.txLinkAddr

/-- The quantities of a record that can be averaged. -/
inductive Quantity where
  | rssi
  | rssiOffset
  | lqi
  | payloadLen
  | txPower
  deriving DecidableEq, Repr

def Quantity.column : Quantity → Column
  | rssi => .rssi
  | rssiOffset => .rssiOffset
  | lqi => .lqi
  | payloadLen => .payloadLen
  | txPower => .txPower

/-- The exact value of a quantity. -/
def Record.quantity (r : Record) : Quantity → Int
  | .rssi => r.rssi.toInt
  | .rssiOffset => r.rssiOffset.toInt
  | .lqi => r.lqi.toNat
  | .payloadLen => r.payloadLen.toNat
  | .txPower => r.txPower.toNat

def Record.field (r : Record) : Column → List Char
  | .descriptor => r.descriptor.toList
  | .packetNr => Numeral.write r.packetNr.toNat
  | .payloadLen => Numeral.write r.payloadLen.toNat
  | .rssi => Numeral.writeInt r.rssi.toInt
  | .rssiOffset => Numeral.writeInt r.rssiOffset.toInt
  | .lqi => Numeral.write r.lqi.toNat
  | .txPower => Numeral.write r.txPower.toNat
  | .channel => Numeral.write r.channel.toNat
  | .channelCenterFreq0 => Numeral.write r.channelCenterFreq0.toNat
  | .channelSpacing => Numeral.write r.channelSpacing.toNat
  | .channelCenterFreqCurr => Numeral.write r.channelCenterFreqCurr.toNat
  | .bitrate => Numeral.write r.bitrate.toNat
  | .symbolRate => Numeral.write r.symbolRate.toNat
  | .rxFiltBw => Numeral.write r.rxFiltBw.toNat
  | .preambleNibbles => Numeral.write r.preambleNibbles.toNat
  | .preambleWord => r.preambleWord.toList
  | .crcPoly => r.crcPoly.toList
  | .crcInit => r.crcInit.toList
  | .syncWord => r.syncWord.toList
  | .syncWordThr => Numeral.write r.syncWordThr.toNat
  | .dualSyncEn => Numeral.write r.dualSyncEn.toNat
  | .syncBits => Numeral.write r.syncBits.toNat
  | .freqDev => Numeral.write r.freqDev.toNat
  | .macHdrLen => Numeral.write r.macHdrLen.toNat
  | .rxLinkAddr => r.rxLinkAddr.toList
  | .txLinkAddr => r.txLinkAddr.toList

/-- What a node prints after the tag. -/
def Record.payload (r : Record) : List Char :=
  Text.unfields (Column.all.map r.field)

end RangeTest
