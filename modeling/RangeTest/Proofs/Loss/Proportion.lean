import RangeTest.Proofs.Binary64.Quotient
import RangeTest.Proofs.Log.Correlation
import RangeTest.Proofs.Loss.Measure
import RangeTest.Proofs.Record.RoundTrip

namespace RangeTest

/-- A record that names `B` as its sender. -/
def Record.sample (number : UInt32) (receiver : String) : Record where
  capturedAt := none
  descriptor := "GFSK"
  packetNr := number
  payloadLen := 8
  rssi := -60
  rssiOffset := 0
  lqi := 90
  txPower := 14
  channel := 1
  channelCenterFreq0 := 868
  channelSpacing := 2
  channelCenterFreqCurr := 868
  bitrate := 50
  symbolRate := 50
  rxFiltBw := 100
  preambleNibbles := 8
  preambleWord := "AA"
  crcPoly := "0x8005"
  crcInit := "FFFF"
  syncWord := "7E"
  syncWordThr := 0
  dualSyncEn := 0
  syncBits := 16
  freqDev := 25
  macHdrLen := 4
  rxLinkAddr := receiver
  txLinkAddr := "B"

/-- The line with which a node logs a record. -/
def Record.line (tag : String) (r : Record) : String :=
  .ofList (tag.toList ++ r.payload)

/-- A log of samples with a common receiver. -/
def LogReader.sample (source receiver : String) (numbers : List UInt32) : LogReader :=
  start source .default
    ((numbers.map fun number => (Record.sample number receiver).line "csv-log: ").map .ok)

/-- A record that is printed is read back from its line. -/
theorem Record.Printable.ofLine_line {r : Record} (printable : r.Printable) (tag : String) :
    ofLine tag (r.line tag) = .matched { r with capturedAt := none } := by
  have cut : Text.cut? tag.toList (tag.toList ++ r.payload) = some ([], r.payload) :=
    Text.cut?_append (fun _ _ _ => Nat.zero_le _ : Text.FirstMark tag.toList [] r.payload)
  have nothing : captureTime? [] = none := captureTime?_of_unmarked (by decide)
  rw [ofLine, line, String.toList_ofList, printable.trimEnd_append, cut]
  dsimp only
  rw [nothing, printable.ofPayload]

theorem Record.sample_printable (number : UInt32) {receiver : String}
    (named : receiver ∈ ["A", "B"]) : (sample number receiver).Printable where
  descriptor := (by decide : "GFSK" ≠ "")
  texts := by
    have plain : ∀ text ∈ ["AA", "0x8005", "FFFF", "7E", "A", "B"],
        text ≠ "" ∧ ¬ Text.separator <:+: text.toList := by decide
    intro text member
    refine plain text ?_
    simp only [Record.texts, sample, List.mem_cons, List.not_mem_nil, or_false] at member named ⊢
    grind
  ending := by
    have name : "B".toList.getLast? = some 'B' := by decide
    intro c last
    cases name.symm.trans last
    decide

/-- A sample is read back from its line, whatever its number. -/
theorem Record.ofLine_sample (number : UInt32) {receiver : String}
    (named : receiver ∈ ["A", "B"]) :
    ofLine "csv-log: " ((sample number receiver).line "csv-log: ") =
      .matched (sample number receiver) :=
  (sample_printable number named).ofLine_line "csv-log: "

theorem LogReader.readAll_sample (source : String) (numbers : List UInt32) {receiver : String}
    (named : receiver ∈ ["A", "B"]) :
    (sample source receiver numbers).readAll.1 = .ok (numbers.map (Record.sample · receiver)) := by
  refine readAll_of_matched ?_
  rw [List.forall₂_map_left_iff, List.forall₂_map_right_iff, List.forall₂_same]
  exact fun number _ => Record.ofLine_sample number named

/-- What `A` received from `B` is analyzed together with what `B` transmitted. -/
theorem Analysis.correlate_sample (numbers : List UInt32) :
    ∃ a, (correlate (.sample "rx" "A" [1]) (.sample "tx" "B" numbers)).1 = .ok a ∧
      a.correlator = .run (Intake.logs [.sample 1 "A"] (numbers.map (Record.sample · "B"))) ∧
      a.links = a.correlator.summaries :=
  correlate_of_readAll (LogReader.readAll_sample "rx" [1] (by simp))
    (LogReader.readAll_sample "tx" numbers (by simp))

end RangeTest
