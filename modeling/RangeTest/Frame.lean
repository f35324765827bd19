import RangeTest.Export.Error
import RangeTest.Record
import RangeTest.Text.Parts

namespace RangeTest

/-- The size of a frame on air and the time that it takes. -/
structure Frame where
  sizeBytes : UInt32
  /-- There is none where the bit rate is unknown. -/
  airtimeMicros : Option Nat
  deriving DecidableEq, Repr

def Frame.ceilDiv (num den : Nat) : Nat :=
  (num + den - 1) / den

/-- Takes a hexadecimal mark off the front of a number. -/
def Frame.withoutHexMark : List Char → List Char
  | '0' :: 'x' :: digits => digits
  | '0' :: 'X' :: digits => digits
  | s => s

/-- Takes one plus off the front of a number. -/
def Frame.withoutPlus : List Char → List Char
  | '+' :: digits => digits
  | s => s

/-- The value of a CRC polynomial that is written in hexadecimal and fits into 64 bits. -/
def Frame.polynomial? (text : String) : Option Nat :=
  match Numeral.hex? (withoutPlus (withoutHexMark (Text.trim text.toList))) with
  | some n => if n < UInt64.size then some n else none
  | none => none

/-- The least number of bytes that hold a number. -/
def Frame.byteWidth (n : Nat) : Nat :=
  if n = 0 then 0 else n.log2 / 8 + 1

/-- How many bytes of a frame the CRC of a polynomial takes. -/
def Frame.crcBytes (polynomial : String) : Except ExportError Nat :=
  match polynomial? polynomial with
  | some n => return byteWidth n
  | none => throw (.invalidCrcPoly polynomial)

/-- The size of the frame of a logged packet in bytes: preamble and sync word, length field, header,
payload and CRC. -/
def Frame.size (r : Record) (lengthField : UInt32) : Except ExportError Nat := do
  let crc ← crcBytes r.crcPoly
  return ceilDiv (4 * r.preambleNibbles.toNat + r.syncBits.toNat) 8 + lengthField.toNat +
    r.macHdrLen.toNat + r.payloadLen.toNat + crc

def Frame.airtime? (size : Nat) (bitrate : UInt32) : Option Nat :=
  if bitrate = 0 then none else some (size * 8 * 1000000 / bitrate.toNat)

/-- The frame of a logged packet. A size beyond 32 bits is cut down to the greatest one within, but
the airtime is that of the full size. -/
def Frame.ofRecord (r : Record) (lengthField : UInt32) : Except ExportError Frame := do
  let size ← Frame.size r lengthField
  return {
    sizeBytes := UInt32.ofNat (min size (UInt32.size - 1))
    airtimeMicros := airtime? size r.bitrate }

end RangeTest
