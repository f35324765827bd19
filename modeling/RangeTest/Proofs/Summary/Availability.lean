import RangeTest.Proofs.Summary.Mean
import RangeTest.Report

namespace RangeTest

/-- Packets whose last one has a smaller number than the first one. -/
def Record.Disordered (sent : List Record) (first last : Record) : Prop :=
  sent.head? = some first ∧ sent.getLast? = some last ∧ last.packetNr < first.packetNr

/-- What the mean and the loss of one descriptor of a link come to. Where nothing arrived, no mean
is asked for and the loss is whole. Otherwise there is a mean, and there is a loss as well unless
the packets sent are disordered. -/
inductive Link.Statistics (l : Link) (descriptor : String) :
    Option (Except LinkError Float) → Except LinkError Loss → Prop
  | silent : l.received.packets descriptor = [] → Statistics l descriptor none (.ok .whole)
  | measured {mean : Float} {lost total : Nat} : l.received.packets descriptor ≠ [] →
      (∀ first last, ¬ Record.Disordered (l.base.packets descriptor) first last) →
      Statistics l descriptor (some (.ok mean)) (.ok (.counted lost total))
  | disordered {mean : Float} {first last : Record} : l.received.packets descriptor ≠ [] →
      Record.Disordered (l.base.packets descriptor) first last →
      Statistics l descriptor (some (.ok mean))
        (.error (.degenerateSequence descriptor first.packetNr last.packetNr))

theorem Link.WellFormed.statistics {receiver sender : String} {l : Link}
    (formed : l.WellFormed receiver sender) {descriptor : String}
    (listed : descriptor ∈ l.base.descriptors) :
    l.Statistics descriptor (l.averageRssi? descriptor) (l.lossAll descriptor) := by
  obtain ⟨first, last, head, tail, loss⟩ := lossAll_eq formed listed
  have mean := (formed.ledgers .received).averageAll_eq descriptor .rssi
  rw [loss, averageRssi?]
  by_cases nothing : l.received.packets descriptor = []
  · have none : ¬ 0 < l.received.count descriptor := by
      rw [Ledger.count, nothing]
      exact Nat.lt_irrefl 0
    rw [if_neg none, if_pos nothing]
    exact .silent nothing
  · have some : 0 < l.received.count descriptor := List.length_pos_iff.2 nothing
    have values : ¬ (l.received.packets descriptor).map (·.quantity .rssi) = [] := by
      rwa [List.map_eq_nil_iff]
    rw [if_pos some, if_neg nothing, mean, Quantity.mean?, if_neg values]
    by_cases disorder : last.packetNr < first.packetNr
    · rw [if_pos disorder]
      exact .disordered nothing ⟨head, tail, disorder⟩
    · rw [if_neg disorder]
      refine .measured nothing ?_
      rintro first' last' ⟨head', tail', disorder'⟩
      cases head.symm.trans head'
      cases tail.symm.trans tail'
      exact disorder disorder'

/-- An error that is met when the links are summed up. -/
inductive Correlator.Meets (c : Correlator) (error : LinkError) : Prop
  | average {receiver sender descriptor : String} {l : Link} : (receiver, sender, l) ∈ c.links →
      descriptor ∈ l.base.descriptors → l.averageRssi? descriptor = some (.error error) →
      Meets c error
  | loss {receiver sender descriptor : String} {l : Link} : (receiver, sender, l) ∈ c.links →
      descriptor ∈ l.base.descriptors → l.lossAll descriptor = .error error → Meets c error

theorem Correlator.WellFormed.statistics {c : Correlator} (formed : c.WellFormed)
    {receiver sender descriptor : String} {l : Link} (listed : (receiver, sender, l) ∈ c.links)
    (transmitted : descriptor ∈ l.base.descriptors) :
    l.Statistics descriptor (l.averageRssi? descriptor) (l.lossAll descriptor) := by
  obtain ⟨linked, rfl⟩ := formed.mem_links_iff.1 listed
  exact (formed.link linked).statistics transmitted

/-- Summing up fails for want of order among the packets sent, and for nothing else. -/
theorem Correlator.WellFormed.degenerate_of_meets {c : Correlator} (formed : c.WellFormed)
    {error : LinkError} (met : c.Meets error) :
    ∃ descriptor first last, error = .degenerateSequence descriptor first last := by
  cases met with
  | @average receiver sender descriptor l listed transmitted failed =>
    have statistics := formed.statistics listed transmitted
    rw [failed] at statistics
    generalize l.lossAll descriptor = loss at statistics
    cases statistics
  | @loss receiver sender descriptor l listed transmitted failed =>
    have statistics := formed.statistics listed transmitted
    rw [failed] at statistics
    generalize l.averageRssi? descriptor = average at statistics
    cases statistics with
    | disordered _ _ => exact ⟨_, _, _, rfl⟩

/-- A notice on a statistic that is not to be had. -/
def Notice.isStatistic : Notice → Bool
  | averageUnavailable _ | lossUnavailable .. => true
  | _ => false

/-- The notice on a summary without a loss ratio, for want of order among the packets sent. -/
def LinkSummary.Warns (c : Correlator) (s : LinkSummary) (notice : Notice) : Prop :=
  ∃ first last, Record.Disordered (c.packets .base s.receiver s.sender s.descriptor) first last ∧
    notice = .lossUnavailable s.receiver s.sender
      (.degenerateSequence s.descriptor first.packetNr last.packetNr)

theorem Link.isStatistic_of_mem {l : Link} {receiver sender descriptor : String} {notice : Notice}
    (told : notice ∈ l.statisticNotices receiver sender descriptor) : notice.isStatistic := by
  rw [statisticNotices] at told
  rcases List.mem_append.1 told with average | loss
  · split at average
    · cases List.mem_singleton.1 average
      rfl
    · exact absurd average List.not_mem_nil
  · split at loss
    · cases List.mem_singleton.1 loss
      rfl
    · exact absurd loss List.not_mem_nil

/-- An operator is told of the statistics of a link descriptor by descriptor. -/
theorem Correlator.filter_notices (c : Correlator) :
    c.notices.filter Notice.isStatistic = c.links.flatMap fun link =>
      link.2.2.base.descriptors.flatMap (link.2.2.statisticNotices link.1 link.2.1) := by
  rw [notices, List.filter_flatMap]
  refine List.flatMap_congr fun link _ => ?_
  obtain ⟨receiver, sender, l⟩ := link
  have unmatched : (l.unmatchedDescriptors.map (Notice.neverTransmitted receiver sender)).filter
      Notice.isStatistic = [] := by
    simp [Notice.isStatistic]
  have statistics : (l.base.descriptors.flatMap (l.statisticNotices receiver sender)).filter
      Notice.isStatistic = l.base.descriptors.flatMap (l.statisticNotices receiver sender) := by
    refine List.filter_eq_self.2 fun notice told => ?_
    obtain ⟨descriptor, _, told⟩ := List.mem_flatMap.1 told
    exact Link.isStatistic_of_mem told
  simp only [Link.notices, List.filter_append, unmatched, statistics, List.nil_append]

/-- There is a notice on the statistics of a descriptor if and only if it has no loss ratio. -/
theorem Correlator.WellFormed.warns {c : Correlator} (formed : c.WellFormed)
    {receiver sender descriptor : String} {l : Link} (listed : (receiver, sender, l) ∈ c.links)
    (transmitted : descriptor ∈ l.base.descriptors) :
    List.Forall₂ (LinkSummary.Warns c)
      ([LinkSummary.ofLink receiver sender l descriptor].filter (·.lossRatio.isNone))
      (l.statisticNotices receiver sender descriptor) := by
  have statistics := formed.statistics listed transmitted
  have here := (formed.mem_links_iff.1 listed).2
  rw [LinkSummary.ofLink, Link.statisticNotices]
  generalize l.averageRssi? descriptor = average at statistics ⊢
  generalize l.lossAll descriptor = loss at statistics ⊢
  cases statistics with
  | silent _ => exact .nil
  | measured _ _ => exact .nil
  | disordered _ disorder => exact .cons ⟨_, _, here ▸ disorder, rfl⟩ .nil

theorem forall₂_flatMap {R : α → β → Prop} {items : List ι} {f : ι → List α} {g : ι → List β}
    (each : ∀ item ∈ items, List.Forall₂ R (f item) (g item)) :
    List.Forall₂ R (items.flatMap f) (items.flatMap g) := by
  have items : List.Forall₂ (fun item other => item = other ∧ item ∈ items) items items :=
    List.forall₂_same.2 fun item member => ⟨rfl, member⟩
  refine List.rel_flatMap items ?_
  rintro item _ ⟨rfl, member⟩
  exact each item member

/-- The notices on statistics are one for every summary without a loss ratio, in the order of the
summaries. -/
theorem Correlator.WellFormed.forall₂_warns {c : Correlator} (formed : c.WellFormed) :
    List.Forall₂ (LinkSummary.Warns c) (c.summaries.filter (·.lossRatio.isNone))
      (c.notices.filter Notice.isStatistic) := by
  rw [filter_notices, summaries, List.filter_flatMap]
  refine forall₂_flatMap fun link listed => ?_
  obtain ⟨receiver, sender, l⟩ := link
  dsimp only
  rw [List.map_eq_flatMap, List.filter_flatMap]
  exact forall₂_flatMap fun descriptor transmitted => formed.warns listed transmitted

/-- What a summary tells of the mean and of the loss ratio. -/
theorem Correlator.WellFormed.availability {c : Correlator} (formed : c.WellFormed)
    {s : LinkSummary} (listed : s ∈ c.summaries) :
    (s.averageRssi.isSome ↔ 0 < s.received) ∧
      (s.lossRatio = none ↔ 0 < s.received ∧ ∃ first last,
        Record.Disordered (c.packets .base s.receiver s.sender s.descriptor) first last) ∧
      (s.received = 0 → s.lossRatio = some 1.0) := by
  obtain ⟨summary, transmitted, link⟩ := mem_summaries formed listed
  have statistics := link.statistics transmitted
  have counted := (formed.counts_of_mem listed).2
  have mean := congrArg LinkSummary.averageRssi summary
  have loss := congrArg LinkSummary.lossRatio summary
  dsimp only [LinkSummary.ofLink] at mean loss
  generalize Link.averageRssi? _ _ = average at statistics mean
  generalize Link.lossAll _ _ = ratio at statistics loss
  rw [mean, loss, counted]
  cases statistics with
  | silent nothing =>
    have none : c.packets .received s.receiver s.sender s.descriptor = [] := nothing
    rw [none]
    exact ⟨⟨nofun, nofun⟩, ⟨nofun, nofun⟩, fun _ => rfl⟩
  | measured arrived ordered =>
    have some := List.length_pos_iff.2 arrived
    exact ⟨⟨fun _ => some, fun _ => rfl⟩, ⟨nofun, fun ⟨_, first, last, disorder⟩ =>
      absurd disorder (ordered first last)⟩, fun zero => absurd zero some.ne'⟩
  | disordered arrived disorder =>
    have some := List.length_pos_iff.2 arrived
    exact ⟨⟨fun _ => some, fun _ => rfl⟩, ⟨fun _ => ⟨some, _, _, disorder⟩, fun _ => rfl⟩,
      fun zero => absurd zero some.ne'⟩

/-- The text of a number is one, also where it is not finite. -/
theorem FloatText.report_ne_unavailable (x : Float) : report x ≠ "unavailable" := by
  rw [report]
  split
  · decide
  · split <;> decide
  · rename_i value _
    intro same
    have point : '.' ∈ value.twoPlaces := by simp [Binary64.twoPlaces]
    rw [← String.toList_inj, String.toList_ofList] at same
    exact absurd (same ▸ point) (by decide)

/-- The report on a summary says that the mean is not to be had just where packets arrived and the
summary has no mean. -/
theorem LinkSummary.unavailable_mem_report_iff (s : LinkSummary) :
    "Average RSSI: unavailable\n" ∈ s.report ↔ 0 < s.received ∧ s.averageRssi = none := by
  rw [report]
  by_cases none : s.received = 0
  · rw [if_pos none, none]
    simp [← String.toList_inj, toString]
  · rw [if_neg none]
    cases mean : s.averageRssi with
    | none => simp [← String.toList_inj, toString, Nat.pos_of_ne_zero none]
    | some x =>
      have number : ¬ "unavailable".toList ++ ['\n'] = (FloatText.report x).toList ++ ['\n'] :=
        fun same => FloatText.report_ne_unavailable x
          (String.toList_inj.1 (List.append_cancel_right same)).symm
      simpa [← String.toList_inj, toString] using number

/-- Only the reports on summaries say it, whatever the title is. -/
theorem Report.unavailable_mem_fragments_iff (title : String) (links : List LinkSummary) :
    "Average RSSI: unavailable\n" ∈ fragments title links ↔
      ∃ s ∈ links, 0 < s.received ∧ s.averageRssi = none := by
  simp [fragments, ← LinkSummary.unavailable_mem_report_iff, ← String.toList_inj, toString]

/-- Why a statistic is missing, whatever records were taken in. A summary has a mean if and only if
packets arrived. It has no loss ratio if and only if packets arrived and the last packet sent has a
smaller number than the first one; where nothing arrived, the ratio is one. Summing up meets no
other error than that the packets sent are disordered, and gives one notice on it for each summary
without a loss ratio. So no report says that a mean is not to be had. -/
theorem Correlator.statistics_availability (history : List Intake) :
    let c := run history
    (∀ s ∈ c.summaries,
      (s.averageRssi.isSome ↔ 0 < s.received) ∧
      (s.lossRatio = none ↔ 0 < s.received ∧ ∃ first last,
        Record.Disordered (c.packets .base s.receiver s.sender s.descriptor) first last) ∧
      (s.received = 0 → s.lossRatio = some 1.0)) ∧
    (∀ error, c.Meets error →
      ∃ descriptor first last, error = .degenerateSequence descriptor first last) ∧
    List.Forall₂ (LinkSummary.Warns c) (c.summaries.filter (·.lossRatio.isNone))
      (c.notices.filter Notice.isStatistic) ∧
    ∀ title, "Average RSSI: unavailable\n" ∉ Report.fragments title c.summaries := by
  intro c
  have formed : c.WellFormed := .run history
  refine ⟨fun s listed => formed.availability listed, fun error met => formed.degenerate_of_meets met,
    formed.forall₂_warns, fun title told => ?_⟩
  obtain ⟨s, listed, arrived, missing⟩ := (Report.unavailable_mem_fragments_iff title _).1 told
  have mean := (formed.availability listed).1.2 arrived
  rw [missing] at mean
  cases mean

end RangeTest
