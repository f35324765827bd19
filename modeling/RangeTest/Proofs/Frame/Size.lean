import Mathlib.Algebra.Order.Floor.Div
import Mathlib.Order.Bounds.Basic
import RangeTest.Proofs.Frame.Polynomial
import RangeTest.Proofs.Loss.Proportion

namespace RangeTest

/-- A number in 64 bits, if it fits. -/
def Word.ofNat? (n : Nat) : Option UInt64 :=
  if n < 2 ^ 64 then some (.ofNat n) else none

def Word.add? (a b : UInt64) : Option UInt64 :=
  ofNat? (a.toNat + b.toNat)

def Word.mul? (a b : UInt64) : Option UInt64 :=
  ofNat? (a.toNat * b.toNat)

/-- A quotient that is rounded up. One is added to it where a remainder is left. -/
def Word.ceilDiv? (a b : UInt64) : Option UInt64 :=
  if a % b = 0 then some (a / b) else add? (a / b) 1

/-- The size of a frame as it is worked out in 64 bits, one operation after the other. There is
none if a result along the way does not fit. -/
def Frame.wordSize? (r : Record) (lengthField : UInt32) (crc : UInt64) : Option UInt64 := do
  let preambleBits ← Word.mul? 4 r.preambleNibbles.toUInt64
  let headerBits ← Word.add? preambleBits r.syncBits.toUInt64
  let header ← Word.ceilDiv? headerBits 8
  let withLength ← Word.add? header lengthField.toUInt64
  let withMac ← Word.add? withLength r.macHdrLen.toUInt64
  let withPayload ← Word.add? withMac r.payloadLen.toUInt64
  Word.add? withPayload crc

/-- The airtime in 64 bits. The outer option is for results that do not fit. -/
def Frame.wordAirtime? (size : UInt64) (bitrate : UInt32) : Option (Option UInt64) :=
  if bitrate = 0 then some none
  else do
    let bits ← Word.mul? size 8
    let scaled ← Word.mul? bits 1000000
    return some (scaled / bitrate.toUInt64)

/-- The frame of a logged packet, worked out in 64 bits. -/
def Frame.inWords (r : Record) (lengthField : UInt32) : Except ExportError (Option Frame) := do
  let crc ← crcBytes r.crcPoly
  return do
    let size ← wordSize? r lengthField (.ofNat crc)
    let airtime ← wordAirtime? size r.bitrate
    return {
      sizeBytes := if size.toNat < UInt32.size then size.toUInt32 else 0xFFFFFFFF
      airtimeMicros := airtime.map UInt64.toNat }

section
variable {m n : Nat}

theorem Word.ofNat?_of_lt (fits : n < 2 ^ 64) : ofNat? n = some (.ofNat n) :=
  if_pos fits

theorem Word.add?_ofNat (fits : m + n < 2 ^ 64) :
    add? (.ofNat m) (.ofNat n) = some (.ofNat (m + n)) := by
  rw [add?, UInt64.toNat_ofNat_of_lt' (Nat.lt_of_le_of_lt (Nat.le_add_right m n) fits),
    UInt64.toNat_ofNat_of_lt' (Nat.lt_of_le_of_lt (Nat.le_add_left n m) fits), ofNat?_of_lt fits]

theorem Word.mul?_ofNat (left : m < 2 ^ 64) (right : n < 2 ^ 64) (fits : m * n < 2 ^ 64) :
    mul? (.ofNat m) (.ofNat n) = some (.ofNat (m * n)) := by
  rw [mul?, UInt64.toNat_ofNat_of_lt' left, UInt64.toNat_ofNat_of_lt' right, ofNat?_of_lt fits]

theorem Word.ceilDiv?_ofNat_eight (fits : n < 2 ^ 64) :
    ceilDiv? (.ofNat n) 8 = some (.ofNat (n ⌈/⌉ 8)) := by
  have remainder : UInt64.ofNat n % 8 = .ofNat (n % 8) := (UInt64.ofNat_mod fits (by decide)).symm
  have quotient : UInt64.ofNat n / 8 = .ofNat (n / 8) := (UInt64.ofNat_div fits (by decide)).symm
  have exact : UInt64.ofNat (n % 8) = 0 ↔ n % 8 = 0 := by
    rw [← UInt64.toNat_inj, UInt64.toNat_ofNat_of_lt' (by simp only [UInt64.size]; omega)]
    rfl
  rw [ceilDiv?, remainder, quotient, Nat.ceilDiv_eq_add_pred_div]
  by_cases whole : n % 8 = 0
  · rw [if_pos (exact.2 whole)]
    congr 2
    omega
  · rw [if_neg (mt exact.1 whole)]
    change add? (.ofNat (n / 8)) (.ofNat 1) = _
    rw [add?_ofNat (by omega)]
    congr 2
    omega

/-- The width of a number is the least number of bytes that hold it. -/
theorem Frame.isLeast_byteWidth (n : Nat) : IsLeast {width | n < 256 ^ width} (byteWidth n) := by
  have bytes (width : Nat) : 256 ^ width = 2 ^ (8 * width) := by rw [Nat.pow_mul]
  rw [byteWidth]
  split
  · rename_i zero
    exact ⟨by rw [zero]; exact Nat.one_pos, fun _ _ => Nat.zero_le _⟩
  · rename_i positive
    have holds (width : Nat) : n < 256 ^ width ↔ n.log2 < 8 * width := by
      rw [bytes, Nat.log2_lt positive]
    refine ⟨(holds _).2 (by omega), fun width held => ?_⟩
    have bits := (holds width).1 held
    omega

theorem Frame.byteWidth_le_eight (small : n < 2 ^ 64) : byteWidth n ≤ 8 :=
  (isLeast_byteWidth n).2 (by simpa using small)

theorem Frame.crcBytes_le_eight {text : String} {width : Nat} (read : crcBytes text = .ok width) :
    width ≤ 8 := by
  obtain ⟨n, polynomial, rfl⟩ := crcBytes_eq_ok_iff.1 read
  exact byteWidth_le_eight (polynomial?_eq_some_iff.1 polynomial).1

end

/-- The size of a frame whose CRC has a width, as a number without bounds. -/
def Frame.exactSize (r : Record) (lengthField : UInt32) (crc : Nat) : Nat :=
  (4 * r.preambleNibbles.toNat + r.syncBits.toNat) ⌈/⌉ 8 + lengthField.toNat + r.macHdrLen.toNat +
    r.payloadLen.toNat + crc

section
variable {r : Record} {lengthField : UInt32} {crc : Nat}

theorem Frame.size_eq (read : crcBytes r.crcPoly = .ok crc) :
    size r lengthField = .ok (exactSize r lengthField crc) := by
  rw [size, read, exactSize, Nat.ceilDiv_eq_add_pred_div]
  rfl

/-- Fields of 32 bits cannot make up a greater frame. -/
theorem Frame.exactSize_lt (narrow : crc ≤ 8) : exactSize r lengthField crc < 2 ^ 34 := by
  have preamble := r.preambleNibbles.toNat_lt
  have sync := r.syncBits.toNat_lt
  have length := lengthField.toNat_lt
  have mac := r.macHdrLen.toNat_lt
  have payload := r.payloadLen.toNat_lt
  rw [exactSize, Nat.ceilDiv_eq_add_pred_div]
  omega

theorem Frame.wordSize?_eq (narrow : crc ≤ 8) :
    wordSize? r lengthField (.ofNat crc) = some (.ofNat (exactSize r lengthField crc)) := by
  have preamble := r.preambleNibbles.toNat_lt
  have sync := r.syncBits.toNat_lt
  -- Every sum along the way is at most the whole, so that it fits as well.
  have whole : exactSize r lengthField crc < 2 ^ 34 := exactSize_lt narrow
  have four : (4 : UInt64) = .ofNat 4 := rfl
  rw [exactSize] at whole ⊢
  simp (disch := omega) only [wordSize?, four, ← UInt64.ofNat_uInt32ToNat, Option.bind_eq_bind,
    Option.bind_some, Word.mul?_ofNat, Word.add?_ofNat, Word.ceilDiv?_ofNat_eight]

theorem Frame.wordAirtime?_eq {size : Nat} (small : size < 2 ^ 34) (bitrate : UInt32) :
    (wordAirtime? (.ofNat size) bitrate).map (·.map UInt64.toNat) =
      some (airtime? size bitrate) := by
  rw [wordAirtime?, airtime?]
  by_cases unknown : bitrate = 0
  · rw [if_pos unknown, if_pos unknown]
    rfl
  · have eight : (8 : UInt64) = .ofNat 8 := rfl
    have million : (1000000 : UInt64) = .ofNat 1000000 := rfl
    have bits : Word.mul? (.ofNat size) (.ofNat 8) = some (.ofNat (size * 8)) :=
      Word.mul?_ofNat (by omega) (by omega) (by omega)
    have scaled : Word.mul? (.ofNat (size * 8)) (.ofNat 1000000) =
        some (.ofNat (size * 8 * 1000000)) :=
      Word.mul?_ofNat (by omega) (by omega) (by omega)
    have quotient : (UInt64.ofNat (size * 8 * 1000000) / bitrate.toUInt64).toNat =
        size * 8 * 1000000 / bitrate.toNat := by
      rw [UInt64.toNat_div, UInt64.toNat_ofNat_of_lt' (by simp only [UInt64.size]; omega),
        UInt32.toNat_toUInt64]
    rw [if_neg unknown, if_neg unknown, eight, million, bits, Option.bind_eq_bind,
      Option.bind_some, scaled, Option.bind_some, Option.pure_def, Option.map_some,
      Option.map_some, quotient]

/-- A size that is cut down to 32 bits. -/
theorem Frame.clamp_eq {size : Nat} (small : size < 2 ^ 34) :
    (if (UInt64.ofNat size).toNat < UInt32.size then (UInt64.ofNat size).toUInt32
      else 0xFFFFFFFF) = UInt32.ofNat (min size (UInt32.size - 1)) := by
  rw [UInt64.toNat_ofNat_of_lt' (small.trans (by decide))]
  split
  · rename_i within
    rw [Nat.min_eq_left (Nat.le_sub_one_of_lt within), UInt64.toUInt32_ofNat']
  · rename_i beyond
    rw [Nat.min_eq_right (Nat.sub_le_of_le_add (Nat.le_succ_of_le (Nat.le_of_not_lt beyond)))]
    rfl

/-- The frame of a size that may be beyond 32 bits. -/
def Frame.ofSize (size : Nat) (bitrate : UInt32) : Frame where
  sizeBytes := UInt32.ofNat (min size (UInt32.size - 1))
  airtimeMicros := airtime? size bitrate

theorem Frame.ofRecord_eq (read : crcBytes r.crcPoly = .ok crc) :
    ofRecord r lengthField = .ok (ofSize (exactSize r lengthField crc) r.bitrate) := by
  rw [ofRecord, size_eq read]
  rfl

/-- No result overflows: in 64 bits the frame is what it is in numbers without bounds. -/
theorem Frame.inWords_eq (r : Record) (lengthField : UInt32) :
    inWords r lengthField = (ofRecord r lengthField).map some := by
  cases read : crcBytes r.crcPoly with
  | error error =>
    rw [inWords, ofRecord, size, read]
    rfl
  | ok crc =>
    have narrow := crcBytes_le_eight read
    have small : exactSize r lengthField crc < 2 ^ 34 := exactSize_lt narrow
    obtain ⟨airtime, told, exact⟩ := Option.map_eq_some_iff.1 (wordAirtime?_eq small r.bitrate)
    rw [ofRecord_eq read, inWords, read]
    change Except.ok _ = Except.ok _
    rw [wordSize?_eq narrow, Option.bind_eq_bind, Option.bind_some, told, Option.bind_eq_bind,
      Option.bind_some, Option.pure_def, clamp_eq small, exact, ofSize]

end

/-- Size and airtime of a frame are exact for every record whose CRC polynomial is hexadecimal, and
nothing overflows on the way. How the polynomial is spelled does not matter. -/
theorem Frame.ofRecord_exact (r : Record) (lengthField : UInt32) {p : Nat}
    (spelled : Spells [] r.crcPoly p) (small : p < 2 ^ 64) :
    ∃ crc frame, IsLeast {width | p < 256 ^ width} crc ∧
      let size := (4 * r.preambleNibbles.toNat + r.syncBits.toNat) ⌈/⌉ 8 + lengthField.toNat +
        r.macHdrLen.toNat + r.payloadLen.toNat + crc
      ofRecord r lengthField = .ok frame ∧
        frame.sizeBytes.toNat = min size (2 ^ 32 - 1) ∧
        frame.airtimeMicros =
          (if r.bitrate = 0 then none else some (size * 8000000 / r.bitrate.toNat)) ∧
        inWords r lengthField = .ok (some frame) ∧
        ∀ other, Spells [] other p →
          ofRecord { r with crcPoly := other } lengthField = .ok frame := by
  have read {text : String} (spells : Spells [] text p) : crcBytes text = .ok (byteWidth p) :=
    crcBytes_eq_ok_iff.2 ⟨p, polynomial?_eq_some_iff.2 ⟨small, Or.inl spells⟩, rfl⟩
  have made : ofRecord r lengthField = .ok (ofSize (exactSize r lengthField _) r.bitrate) :=
    ofRecord_eq (read spelled)
  refine ⟨byteWidth p, ofSize (exactSize r lengthField (byteWidth p)) r.bitrate,
    isLeast_byteWidth p, made, ?_, ?_, ?_, fun other spells => ofRecord_eq (read spells)⟩
  · exact UInt32.toNat_ofNat_of_lt' (Nat.lt_of_le_of_lt (Nat.min_le_right _ _) (by decide))
  · rw [ofSize, airtime?, Nat.mul_assoc]
    rfl
  · rw [inWords_eq, made]
    rfl

/-- A packet of the greatest frame that can be logged, on air at one bit per second. -/
def Record.greatest : Record :=
  { Record.sample 1 "A" with
    bitrate := 1
    preambleNibbles := 0xFFFFFFFF
    syncBits := 0xFFFFFFFF
    macHdrLen := 0xFFFFFFFF
    payloadLen := 0xFFFFFFFF
    crcPoly := "\t0X00fFFFFFFFFFFFFFFF " }

/-- The size does not fit into 32 bits, but the airtime is that of the full size. -/
theorem Frame.ofRecord_exact_greatest :
    Spells [] Record.greatest.crcPoly 0xFFFFFFFFFFFFFFFF ∧
      ∃ frame, ofRecord .greatest 0xFFFFFFFF = .ok frame ∧ frame.sizeBytes = 0xFFFFFFFF ∧
        frame.airtimeMicros = some (15569256453 * 8000000) ∧
        inWords .greatest 0xFFFFFFFF = .ok (some frame) ∧
        ofRecord { Record.greatest with crcPoly := "ffffffffffffffff" } 0xFFFFFFFF =
          .ok frame := by
  have read (text : String)
      (number : Numeral.hex? (withoutHexMark (Text.trim text.toList)) = some 0xFFFFFFFFFFFFFFFF) :
      Spells [] text 0xFFFFFFFFFFFFFFFF := by
    obtain ⟨mark, marked, whole⟩ := exists_withoutHexMark (Text.trim text.toList)
    refine .intro marked ?_ (Numeral.hex?_eq_some_iff.1 number)
    rwa [List.append_nil]
  have spelled := read Record.greatest.crcPoly (by decide +kernel)
  obtain ⟨crc, frame, least, made, bytes, airtime, words, others⟩ :=
    ofRecord_exact .greatest 0xFFFFFFFF spelled (by decide)
  obtain rfl : crc = 8 := least.unique (isLeast_byteWidth _)
  have size : (4 * Record.greatest.preambleNibbles.toNat + Record.greatest.syncBits.toNat) ⌈/⌉ 8 +
      (0xFFFFFFFF : UInt32).toNat + Record.greatest.macHdrLen.toNat +
        Record.greatest.payloadLen.toNat + 8 = 15569256453 := by
    rw [Nat.ceilDiv_eq_add_pred_div]
    rfl
  rw [size] at bytes airtime
  exact ⟨spelled, frame, made, UInt32.toNat_inj.1 bytes, airtime, words,
    others _ (read _ (by decide +kernel))⟩

end RangeTest
