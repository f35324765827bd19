import RangeTest.Proofs.Correlator.Refinement
import RangeTest.Proofs.Log.Correlation
import RangeTest.Proofs.Record.Grammar

namespace RangeTest

section
variable {source : String} {settings : LogSettings} {number : Nat} {counters : Counters}
  {lines : List RawLine}

/-- A record that is read stands in one of the lines in front of the reader. -/
theorem LogReader.advance_matched {record : Record}
    (read : (advance source settings number counters lines).result = .ok (some record)) :
    ∃ line, .ok line ∈ lines ∧ Record.ofLine settings.tag line = .matched record := by
  fun_induction advance source settings number counters lines with
  | case1 => cases read
  | case2 => cases read
  | case3 number counters line rest _ first matched =>
    cases read
    exact ⟨line, List.mem_cons_self, matched⟩
  | case4 number counters line rest _ _ ih =>
    obtain ⟨later, member, matched⟩ := ih read
    exact ⟨later, List.mem_cons_of_mem _ member, matched⟩
  | case5 number counters line rest _ fault _ _ _ _ ih =>
    obtain ⟨later, member, matched⟩ := ih read
    exact ⟨later, List.mem_cons_of_mem _ member, matched⟩
  | case6 => cases read

theorem LogReader.advance_settings :
    (advance source settings number counters lines).reader.settings = settings := by
  fun_induction advance source settings number counters lines with
  | case1 => rfl
  | case2 => rfl
  | case3 => rfl
  | case4 _ _ _ _ _ _ ih => exact ih
  | case5 _ _ _ _ _ _ _ _ _ _ ih => exact ih
  | case6 => rfl

theorem LogReader.advance_pending :
    (advance source settings number counters lines).reader.pending <:+ lines := by
  fun_induction advance source settings number counters lines with
  | case1 => exact List.suffix_refl _
  | case2 => exact List.suffix_cons _ _
  | case3 => exact List.suffix_cons _ _
  | case4 _ _ _ _ _ _ ih => exact ih.trans (List.suffix_cons _ _)
  | case5 _ _ _ _ _ _ _ _ _ _ ih => exact ih.trans (List.suffix_cons _ _)
  | case6 => exact List.suffix_cons _ _

end

theorem LogReader.exists_line_of_drain {collected final : List Record} {r : LogReader}
    (drained : (r.drain (fun records record => (record :: records, [])) collected).1 = .ok final) :
    ∀ record ∈ final, record ∈ collected ∨
      ∃ line, .ok line ∈ r.pending ∧ Record.ofLine r.settings.tag line = .matched record := by
  fun_induction drain (fun records record => (record :: records, [])) collected r with
  | case1 => cases drained
  | case2 collected r ended =>
    cases drained
    exact fun record member => Or.inl member
  | case3 collected r first read fed heard step result later last rest ih =>
    cases step
    rw [rest] at ih
    intro record member
    obtain known | ⟨line, pending, matched⟩ := ih drained record member
    · obtain rfl | before := List.mem_cons.1 known
      · exact Or.inr (advance_matched read)
      · exact Or.inl before
    · rw [next, advance_settings] at matched
      exact Or.inr ⟨line, advance_pending.mem pending, matched⟩

/-- Every record that is read from a log stands in one of its lines. -/
theorem LogReader.readAll_matched {r : LogReader} {records : List Record}
    (read : r.readAll.1 = .ok records) {record : Record} (member : record ∈ records) :
    ∃ line, .ok line ∈ r.pending ∧ Record.ofLine r.settings.tag line = .matched record := by
  change (r.drain (fun records record => (record :: records, [])) []).1.map List.reverse = _ at read
  cases drained : (r.drain (fun records record => (record :: records, [])) []).1 with
  | error error =>
    rw [drained] at read
    cases read
  | ok final =>
    rw [drained] at read
    cases read
    have origin := exists_line_of_drain drained record (List.mem_reverse.1 member)
    exact origin.resolve_left List.not_mem_nil

/-- No column of a record that is read from a line is empty. -/
theorem Record.ofLine_filled {tag line : String} {r : Record}
    (matched : ofLine tag line = .matched r) : r.Filled := by
  unfold ofLine at matched
  split at matched
  · cases matched
  · rename_i lead payload _
    have reading : LineReading.Grammar lead (Text.fields payload) (.matched r) := by
      rw [← matched]
      exact ofPayload_grammar lead payload
    cases reading with
    | matched _ spelled => exact spelled.filled

/-- No column of a packet that was correlated is empty. -/
theorem Analysis.packets_filled {rx tx : LogReader} {a : Analysis}
    (success : (correlate rx tx).1 = .ok a) (receiver sender descriptor : String) :
    ∀ r ∈ a.correlator.packets .received receiver sender descriptor, r.Filled := by
  obtain ⟨received, transmitted, readRx, readTx, correlated, _⟩ := correlate_ok success
  rw [correlated, Correlator.packets_logs_received]
  intro r kept
  have logged := (List.mem_filter.1 ((Record.firsts_sublist _).mem kept)).1
  obtain inRx | inTx := List.mem_append.1 logged
  · obtain ⟨_, _, matched⟩ := LogReader.readAll_matched readRx inRx
    exact Record.ofLine_filled matched
  · obtain ⟨_, _, matched⟩ := LogReader.readAll_matched readTx inTx
    exact Record.ofLine_filled matched

end RangeTest
