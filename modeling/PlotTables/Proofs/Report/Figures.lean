import PlotTables.Proofs.Spacing.Accuracy
import PlotTables.Proofs.Subsample.Idempotence
import PlotTables.Proofs.Subsample.Identifiers

set_option autoImplicit false

namespace PlotTables

open Magnitude Binary64

theorem CloseStep.floor (rows gaps : Nat) (step : Magnitude) (close : CloseStep rows gaps step)
    (few : rows < 2 ^ 53) : ⌊step.value⌋₊ = rows / gaps := by
  by_cases divides : gaps ∣ rows
  next => rw [close.whole divides, Nat.floor_natCast]
  next =>
    -- Only the next integer could be reached by rounding up, and it is too far away.
    have fewRat : (rows : ℚ) < 2 ^ 53 := by exact_mod_cast few
    have error : |step.value * gaps - rows| < 1 := by
      refine lt_of_le_of_lt close.close ?_
      linarith
    obtain ⟨low, high⟩ := floor_brackets rows gaps step.value step.value_nonneg error
    have apart : rows ≠ (⌊step.value⌋₊ + 1) * gaps := by
      intro same
      exact divides (Dvd.intro_left _ same.symm)
    exact (Nat.div_eq_of_lt_le low (lt_of_le_of_ne high apart)).symm

section Selection

variable (available target : Nat) (indices : List Nat) (few : available ≤ 2 ^ 50)
  (computed : uniformIndices available target = .ok indices)

include few

theorem spacedAt_one (le : target ≤ available) (several : 2 < target) :
    spacedAt available target 1 = (available - 1) / (target - 1) := by
  obtain ⟨step, p, quotient, _, _, rounded, whole, _⟩ :=
    spacedAt_exact available target (by omega) le (by omega) 1 (by omega)
  have close := closeStep_computed (available - 1) (target - 1) (by omega) (by omega) (by omega)
    step quotient
  rw [Nat.cast_one, one_mul, nearest?_value] at rounded
  cases rounded
  rw [whole, close.floor _ _ _ (by omega)]

include computed

theorem uniformIndices_second (several : 1 < target) :
    indices[1]? = some ((available - 1) / (target - 1)) := by
  obtain ⟨_, _, le⟩ := uniformIndices_length _ _ _ computed
  rw [uniformIndices_valid _ _ (by omega) le, if_neg (by omega)] at computed
  cases computed
  by_cases pair : target = 2
  next => simp [pair]
  next =>
    have inner : 1 < target - 1 := by omega
    rw [List.getElem?_append_left (by simpa using inner), List.getElem?_map,
      List.getElem?_range inner, Option.map_some, spacedAt_one available target few le (by omega)]

theorem ofIndices_interval (matched : Bool) : (Report.ofIndices available indices matched).interval =
    if target = 1 then available else (available - 1) / (target - 1) := by
  obtain ⟨length, positive, le⟩ := uniformIndices_length _ _ _ computed
  obtain ⟨_, same, selection⟩ :=
    uniformIndices_selection available target (by omega) positive le (by omega)
  rw [computed] at same
  cases same
  have first := selection.first
  by_cases single : target = 1
  next =>
    rw [if_pos single]
    match indices, length.trans single with
    | [_], _ => rfl
  next =>
    have second := uniformIndices_second available target indices few computed (by omega)
    rw [if_neg single]
    match indices, first, second with
    | _ :: _ :: _, rfl, same => simpa [Report.ofIndices] using same

theorem ofIndices_ratio (matched : Bool) :
    ∃ m, (Report.ofIndices available indices matched).selectionRatio = .finite false m ∧
      Share target available m := by
  obtain ⟨length, positive, le⟩ := uniformIndices_length _ _ _ computed
  obtain ⟨m, quotient, share⟩ := share_computed target available positive le (by omega)
  rw [← length] at quotient
  exact ⟨m, quotient, share⟩

end Selection

/-- The figures of a report on so many rows of so many, without any rounding but that of the ratio. -/
structure Report.Figures (available target : Nat) (report : Report) : Prop where
  totalRows : report.totalRows = available
  selectedRows : report.selectedRows = target
  firstCountMatches : report.firstCountMatches = true
  interval : report.interval = if target = 1 then available else (available - 1) / (target - 1)
  interval_pos : 1 ≤ report.interval
  ratio : ∃ m, report.selectionRatio = .finite false m ∧ Share target available m

theorem ofIndices_figures (available target : Nat) (indices : List Nat) (few : available ≤ 2 ^ 50)
    (computed : uniformIndices available target = .ok indices) :
    (Report.ofIndices available indices true).Figures available target := by
  obtain ⟨length, positive, le⟩ := uniformIndices_length _ _ _ computed
  have interval := ofIndices_interval available target indices few computed true
  refine ⟨rfl, length, rfl, interval, ?_, ofIndices_ratio available target indices few computed true⟩
  rw [interval]
  split
  next => omega
  next => exact Nat.div_pos (by omega) (by omega)

theorem subsampleCounts_report (counts : List UInt64) (target : Nat) (series : SampleSeries)
    (report : Report) (few : counts.length ≤ 2 ^ 50)
    (done : subsampleCounts counts target = .ok (series, report)) :
    series.size = target ∧ ∃ indices, uniformIndices counts.length target = .ok indices ∧
      report = Report.ofIndices counts.length indices true := by
  obtain ⟨indices, computed, _⟩ := (bind_ok _ _ _).mp done
  obtain ⟨length, positive, le⟩ := uniformIndices_length _ _ _ computed
  obtain ⟨_, same, selection⟩ :=
    uniformIndices_selection counts.length target (by omega) positive le (by omega)
  rw [computed] at same
  cases same
  rw [subsampleCounts_selection counts target indices computed selection (by omega)] at done
  cases done
  exact ⟨by simp [SampleSeries.size, length], indices, computed, rfl⟩

theorem report_figures :
    (∀ counts target series report, counts.length ≤ 2 ^ 50 →
      subsampleCounts counts target = .ok (series, report) →
        series.size = target ∧ report.Figures counts.length target) ∧
    ∀ t s target report, t.rowCount ≤ 2 ^ 50 → subsampleTable t target = .ok (s, report) →
      s.rowCount = target ∧ report.Figures t.rowCount target := by
  constructor
  next =>
    intro counts target series report few done
    obtain ⟨size, indices, computed, same⟩ :=
      subsampleCounts_report counts target series report few done
    rw [same]
    exact ⟨size, ofIndices_figures counts.length target indices few computed⟩
  next =>
    intro t s target report few done
    obtain ⟨_, indices, _, sampled, same⟩ := subsampleTable_sampled t s target report few done
    rw [same]
    exact ⟨sampled.rowCount, ofIndices_figures t.rowCount target indices few sampled.computed⟩

def thinnedIds : Table where
  headers := sameIds.headers
  rows := [["0.5", "1", "x"], ["1.0", "3", "x"]]
  rectangular := by decide

theorem sameIds_thinned :
    subsampleTable sameIds 2 = .ok (thinnedIds, Report.ofIndices 3 [0, 2] true) := by
  decide +kernel

theorem report_figures_pinned :
    (∃ series report, subsampleCounts [5, 1, 2, 3, 4, 5, 6, 7] 4 = .ok (series, report) ∧
      series.size = 4 ∧ report.interval = 2 ∧ report.Figures 8 4) ∧
    ∃ s report, subsampleTable sameIds 2 = .ok (s, report) ∧ s.rowCount = 2 ∧
      report.interval = 2 ∧ report.Figures 3 2 := by
  obtain ⟨ofCounts, ofTable⟩ := report_figures
  constructor
  next =>
    have done : subsampleCounts [5, 1, 2, 3, 4, 5, 6, 7] 4 =
        .ok (⟨(normalizedIds 4).zipWith SamplePoint.mk [5, 2, 4, 7]⟩,
          Report.ofIndices 8 [0, 2, 4, 7] true) := by
      decide +kernel
    obtain ⟨size, figures⟩ := ofCounts _ 4 _ _ (by decide) done
    exact ⟨_, _, done, size, figures.interval, figures⟩
  next =>
    obtain ⟨size, figures⟩ := ofTable sameIds thinnedIds 2 _ (by decide) sameIds_thinned
    exact ⟨_, _, sameIds_thinned, size, figures.interval, figures⟩

end PlotTables
