import PlotTables.Proofs.Count.Doubles
import PlotTables.Proofs.Report.Figures
import PlotTables.Text.Basic

set_option autoImplicit false

namespace PlotTables

open Magnitude

section Rounded

variable (places : Nat)

def Magnitude.atPlaces (m : Magnitude) : Nat := roundHalfEven (m.scaled * 10 ^ places) unit

theorem Magnitude.atPlaces_error (m : Magnitude) :
    |(m.atPlaces places : ℚ) / 10 ^ places - m.value| ≤ 1 / (2 * 10 ^ places) := by
  have power : (0 : ℚ) < 10 ^ places := by positivity
  obtain ⟨high, low⟩ := roundHalfEven_error (m.scaled * 10 ^ places) unit unit_pos
  rw [← atPlaces] at high low
  have highRat : 2 * ((m.atPlaces places : ℚ) * unit) ≤ 2 * (m.scaled * 10 ^ places) + unit := by
    exact_mod_cast high
  have lowRat : 2 * ((m.scaled : ℚ) * 10 ^ places) ≤ 2 * (m.atPlaces places * unit) + unit := by
    exact_mod_cast low
  have exact : (m.scaled : ℚ) = m.value * unit := by
    rw [value, div_mul_cancel₀ _ unit_rat_pos.ne']
  rw [exact] at highRat lowRat
  have near : |m.atPlaces places - m.value * 10 ^ places| ≤ 1 / 2 := by
    rw [abs_le]
    constructor
    · apply le_of_mul_le_mul_right _ unit_rat_pos
      linarith
    · apply le_of_mul_le_mul_right _ unit_rat_pos
      linarith
  rw [← mul_div_cancel_right₀ m.value power.ne', ← sub_div, abs_div, abs_of_pos power, ← div_div]
  exact div_le_div_of_nonneg_right near power.le

theorem half_place (n part whole : Nat) (nonzero : 1 ≤ whole)
    (few : 2 * 10 ^ places * whole < 2 ^ 54)
    (near : |(n : ℚ) / 10 ^ places - part / whole| ≤ 1 / (2 * 10 ^ places) + 1 / 2 ^ 54) :
    |(n : ℚ) / 10 ^ places - part / whole| ≤ 1 / (2 * 10 ^ places) := by
  have power : (0 : ℚ) < 10 ^ places := by positivity
  have wholePos : (0 : ℚ) < whole := by exact_mod_cast nonzero
  have common : (0 : ℚ) < 2 * 10 ^ places * whole := by positivity
  -- The two differ by a whole number of parts, and half a place is a whole number of them too.
  let off : Int := 2 * n * whole - 2 * 10 ^ places * part
  have offset : ((n : ℚ) / 10 ^ places - part / whole) * (2 * 10 ^ places * whole) = off := by
    simp only [off]
    push_cast
    field_simp
  have distance : |(n : ℚ) / 10 ^ places - part / whole| = |off| / (2 * 10 ^ places * whole) := by
    rw [Int.cast_abs, ← offset, abs_mul, abs_of_pos common, mul_div_cancel_right₀ _ common.ne']
  have half : (1 : ℚ) / (2 * 10 ^ places) = whole / (2 * 10 ^ places * whole) := by
    rw [div_mul_cancel_right₀ wholePos.ne', one_div]
  have fewRat : (2 * 10 ^ places * whole : ℚ) < 2 ^ 54 := by exact_mod_cast few
  rw [distance, half, div_le_iff₀ common, add_mul, div_mul_cancel₀ _ common.ne'] at near
  have rest : 1 / 2 ^ 54 * (2 * 10 ^ places * whole : ℚ) < 1 := by
    rw [one_div_mul_eq_div]
    exact (div_lt_one (by norm_num)).mpr fewRat
  have less : ((|off| : Int) : ℚ) < whole + 1 := by linarith
  have close : |off| ≤ whole := Int.lt_add_one_iff.mp (by exact_mod_cast less)
  rw [distance, half]
  exact div_le_div_of_nonneg_right (by exact_mod_cast close) common.le

theorem Magnitude.Share.printed (part whole : Nat) (m : Magnitude) (share : Share part whole m)
    (nonzero : 1 ≤ whole) (few : 2 * 10 ^ places * whole < 2 ^ 54) :
    |(m.atPlaces places : ℚ) / 10 ^ places - part / whole| ≤ 1 / (2 * 10 ^ places) := by
  apply half_place places _ part whole nonzero few
  calc |(m.atPlaces places : ℚ) / 10 ^ places - part / whole|
      ≤ |(m.atPlaces places : ℚ) / 10 ^ places - m.value| + |m.value - part / whole| :=
        abs_sub_le _ _ _
    _ ≤ 1 / (2 * 10 ^ places) + 1 / 2 ^ 54 := add_le_add (m.atPlaces_error places) share.close

end Rounded

namespace Report

def ratioLabel : List Char := "Selection ratio:".toList

/-- The number on the first line with the label. -/
def printedRatio? (text : String) : Option ℚ := do
  let line ← (splitAll '\n' text.toList).find? ratioLabel.isPrefixOf
  let numeral ← Literal.read? (trimBlanks (line.drop ratioLabel.length))
  return numeral.value

theorem numeral_line (label numeral rest : List Char) (labelled : '\n' ∉ label)
    (visible : Literal.Visible numeral) :
    splitAll '\n' (label ++ (numeral ++ '\n' :: rest)) =
      (label ++ numeral) :: splitAll '\n' rest := by
  rw [← List.append_assoc]
  apply splitAll_part
  rw [List.mem_append]
  rintro (member | member)
  · exact labelled member
  · exact Bool.noConfusion (visible _ member)

theorem fixedPlaces_spells (m : Magnitude) (places : Nat) :
    (fixedPlaces places (.finite false m)).toList = pointed (m.atPlaces places) places := by
  rw [fixedPlaces, String.toList_ofList]
  rfl

theorem pointed_reads (coefficient places : Nat) :
    ∃ l, Literal.read? (pointed coefficient places) = some l ∧
      l.value = coefficient / 10 ^ places ∧ Literal.Visible (pointed coefficient places) := by
  obtain ⟨l, read, sign, digits, shift⟩ := (pointed_spells coefficient places).reads false
  obtain ⟨exact, _, written⟩ := Literal.read?_sound _ l read
  refine ⟨l, read, ?_, written.visible⟩
  rw [Literal.value, sign, Literal.decimal, digits, shift, Decimal.value, zpow_neg, zpow_natCast,
    div_eq_mul_inv]
  rfl

theorem renderText_lines (r : Report) : ∃ rest, r.renderText.toList =
    "Total rows:       ".toList ++ (Nat.toDigits 10 r.totalRows ++ '\n' ::
      ("Interval:         ".toList ++ (Nat.toDigits 10 r.interval ++ '\n' ::
        ("Selection ratio:  ".toList ++ ((fixedPlaces 4 r.selectionRatio).toList ++
          '\n' :: rest))))) := by
  have text : r.renderText =
      "Total rows:       " ++ r.totalRows.repr ++ "\n" ++
        ("Interval:         " ++ r.interval.repr ++ "\n") ++
        ("Selection ratio:  " ++ fixedPlaces 4 r.selectionRatio ++ "\n") ++
        ("Selected rows:    " ++ r.selectedRows.repr) ++
        if r.firstCountMatches then "" else "\nFirst row is not the same!" :=
    rfl
  refine ⟨"Selected rows:    ".toList ++ (Nat.toDigits 10 r.selectedRows ++
    (if r.firstCountMatches then "" else "\nFirst row is not the same!").toList), ?_⟩
  rw [text]
  simp only [String.toList_append, Nat.toList_repr, List.append_assoc]
  rfl

theorem printedRatio?_render (r : Report) (m : Magnitude)
    (ratio : r.selectionRatio = .finite false m) :
    printedRatio? (r.render .text) = some ((m.atPlaces 4 : ℚ) / 10 ^ 4) := by
  obtain ⟨l, read, value, visible⟩ := pointed_reads (m.atPlaces 4) 4
  have digits (n : Nat) : Literal.Visible (Nat.toDigits 10 n) := .of_digits _ (toDigits_isDigit n)
  obtain ⟨rest, text⟩ := r.renderText_lines
  rw [ratio, fixedPlaces_spells] at text
  have trimmed : trimBlanks ("  ".toList ++ pointed (m.atPlaces 4) 4) = pointed (m.atPlaces 4) 4 :=
    Count.trimBlanks_of_visible _ visible
  have found (total interval : List Char) (others : List (List Char)) :
      (("Total rows:       ".toList ++ total) :: ("Interval:         ".toList ++ interval) ::
        ("Selection ratio:  ".toList ++ pointed (m.atPlaces 4) 4) :: others).find?
          ratioLabel.isPrefixOf =
      some (ratioLabel ++ ("  ".toList ++ pointed (m.atPlaces 4) 4)) :=
    rfl
  rw [printedRatio?, render, text, numeral_line _ _ _ (by decide) (digits _),
    numeral_line _ _ _ (by decide) (digits _), numeral_line _ _ _ (by decide) visible, found]
  simp only [bind, Option.bind_some, List.drop_left, trimmed, read, value, pure]

theorem printedRatio?_ofIndices (available target : Nat) (indices : List Nat)
    (few : available ≤ 2 ^ 39) (computed : uniformIndices available target = .ok indices) :
    ∃ n : Nat, printedRatio? ((ofIndices available indices true).render .text) =
        some ((n : ℚ) / 10 ^ 4) ∧ |(n : ℚ) / 10 ^ 4 - target / available| ≤ 1 / 20000 := by
  obtain ⟨_, positive, le⟩ := uniformIndices_length _ _ _ computed
  obtain ⟨m, ratio, share⟩ := ofIndices_ratio available target indices (by omega) computed true
  have close := share.printed 4 target available m (by omega) (by omega)
  have halves : (2 * 10 ^ 4 : ℚ) = 20000 := by norm_num
  rw [halves] at close
  exact ⟨_, printedRatio?_render _ m ratio, close⟩

end Report

theorem printedRatio_close :
    (∀ counts target series report, counts.length ≤ 2 ^ 39 →
      subsampleCounts counts target = .ok (series, report) →
        ∃ n : Nat, Report.printedRatio? (report.render .text) = some ((n : ℚ) / 10 ^ 4) ∧
          |(n : ℚ) / 10 ^ 4 - target / counts.length| ≤ 1 / 20000) ∧
    ∀ t s target report, t.rowCount ≤ 2 ^ 39 → subsampleTable t target = .ok (s, report) →
      ∃ n : Nat, Report.printedRatio? (report.render .text) = some ((n : ℚ) / 10 ^ 4) ∧
        |(n : ℚ) / 10 ^ 4 - target / t.rowCount| ≤ 1 / 20000 := by
  constructor
  next =>
    intro counts target series report few done
    obtain ⟨_, indices, computed, same⟩ :=
      subsampleCounts_report counts target series report (by omega) done
    rw [same]
    exact Report.printedRatio?_ofIndices counts.length target indices few computed
  next =>
    intro t s target report few done
    obtain ⟨_, indices, _, sampled, same⟩ :=
      subsampleTable_sampled t s target report (by omega) done
    rw [same]
    exact Report.printedRatio?_ofIndices t.rowCount target indices few sampled.computed

-- One row of 32 is `0.03125`, a tie, which is as far from four places as a number can be.
theorem printedRatio_close_tie :
    (∃ series report, subsampleCounts (.replicate 32 7) 1 = .ok (series, report) ∧
      report.renderText =
        "Total rows:       32\nInterval:         32\n" ++
          "Selection ratio:  0.0312\nSelected rows:    1" ∧
      ∃ n : Nat, Report.printedRatio? (report.render .text) = some ((n : ℚ) / 10 ^ 4) ∧
        |(n : ℚ) / 10 ^ 4 - 1 / 32| ≤ 1 / 20000) ∧
    ∃ s report, subsampleTable sameIds 2 = .ok (s, report) ∧
      ∃ n : Nat, Report.printedRatio? (report.render .text) = some ((n : ℚ) / 10 ^ 4) ∧
        |(n : ℚ) / 10 ^ 4 - 2 / 3| ≤ 1 / 20000 := by
  obtain ⟨ofCounts, ofTable⟩ := printedRatio_close
  constructor
  next =>
    have done : subsampleCounts (.replicate 32 7) 1 =
        .ok (⟨(normalizedIds 1).zipWith SamplePoint.mk [7]⟩, Report.ofIndices 32 [0] true) := by
      decide +kernel
    have close := ofCounts (.replicate 32 7) 1 _ _ (by decide) done
    rw [List.length_replicate, Nat.cast_one, Nat.cast_ofNat] at close
    exact ⟨_, _, done, by decide +kernel, close⟩
  next =>
    have close := ofTable sameIds thinnedIds 2 _ (by decide) sameIds_thinned
    have rows : sameIds.rowCount = 3 := rfl
    rw [rows, Nat.cast_ofNat, Nat.cast_ofNat] at close
    exact ⟨_, _, sameIds_thinned, close⟩

end PlotTables
