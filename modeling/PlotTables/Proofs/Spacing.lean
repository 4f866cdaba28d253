import PlotTables.Proofs.Binary64.Nearest
import PlotTables.Subsample

set_option autoImplicit false

namespace PlotTables

open Magnitude Binary64

theorem multiple_error (step p : Magnitude) (i : Nat) (one : 1 ≤ step.value)
    (rounded : nearest? (i * step.value) = some p) :
    |p.value - i * step.value| ≤ i * step.value / 2 ^ 53 := by
  apply nearest?_error_of_zero_or_one_le _ _ rounded
  rcases Nat.eq_zero_or_pos i with zero | positive
  · left
    rw [zero, Nat.cast_zero, zero_mul]
  · right
    have count : (1 : ℚ) ≤ i := by exact_mod_cast positive
    nlinarith

theorem multiples_apart (step p q : Magnitude) (i : Nat) (few : i + 1 < 2 ^ 50)
    (one : 1 ≤ step.value) (lower : nearest? (i * step.value) = some p)
    (upper : nearest? ((i + 1 : Nat) * step.value) = some q) : ⌊p.value⌋₊ < ⌊q.value⌋₊ := by
  have fewRat : (i : ℚ) + 1 ≤ 2 ^ 50 := by exact_mod_cast few.le
  have iNonneg : (0 : ℚ) ≤ i := Nat.cast_nonneg i
  have floor : (⌊p.value⌋₊ : ℚ) ≤ p.value := Nat.floor_le p.value_nonneg
  have lowerError := multiple_error step p i one lower
  have upperError := multiple_error step q (i + 1) one upper
  rw [Nat.cast_add, Nat.cast_one] at upper upperError
  suffices far : (⌊p.value⌋₊ : ℚ) + 1 ≤ q.value from Nat.le_floor (by exact_mod_cast far)
  -- A step of one leaves no room for two errors, so that ties must be looked at.
  rcases lt_or_ge step.value (4 / 3) with short | long
  next =>
    have small : ((i : ℚ) + 1) * step.value < 2 ^ 52 := by nlinarith
    have apart : (i : ℚ) * step.value + 1 ≤ (i + 1) * step.value := by linarith
    exact nearest?_step _ _ p q ⌊p.value⌋₊ (by positivity) apart small floor lower upper
  next =>
    -- The two errors together are at most a quarter of a step.
    have errors : (2 * (i : ℚ) + 1) * step.value ≤ 2 ^ 51 * step.value := by
      apply mul_le_mul_of_nonneg_right _ (by linarith)
      linarith
    have lowerBound := (abs_le.mp lowerError).2
    have upperBound := (abs_le.mp upperError).1
    linarith

/-- What the step between `gaps + 1` positions over `rows + 1` rows keeps of the exact quotient. -/
structure Pace (rows gaps : Nat) (step : Magnitude) : Prop where
  one_le : 1 ≤ step.value
  upper : step.value * gaps ≤ rows * (1 + 1 / 2 ^ 53) ^ 2
  whole : gaps = rows → step.value = 1

theorem step_computed (rows gaps : Nat) (a step : Magnitude) (positive : 0 < gaps)
    (few : gaps < 2 ^ 53) (rowsRounded : nearest? rows = some a)
    (rounded : nearest? (a.value / gaps) = some step) :
    (ofNat rows).div (ofNat gaps) = .finite false step := by
  obtain ⟨b, gapsRounded, exact⟩ := nearest?_natCast gaps few
  rw [div_ofNat rows gaps a b rowsRounded gapsRounded, exact, nearest_of_nearest? _ _ rounded]
  rw [exact]
  exact Nat.cast_pos.mpr positive

section Quotient

variable (rows gaps : Nat) (a : Magnitude) (positive : 0 < gaps) (few : gaps < 2 ^ 53)
  (le : gaps ≤ rows) (rowsRounded : nearest? rows = some a)

include positive few le rowsRounded

theorem quotient_one_le : 1 ≤ a.value / gaps := by
  obtain ⟨b, gapsRounded, exact⟩ := nearest?_natCast gaps few
  rw [one_le_div (Nat.cast_pos.mpr positive), ← exact]
  exact nearest?_mono _ _ _ _ (Nat.cast_nonneg _) (Nat.cast_le.mpr le) gapsRounded rowsRounded

theorem pace_of_rounded (step : Magnitude) (rounded : nearest? (a.value / gaps) = some step) :
    Pace rows gaps step where
  one_le := by
    have oneLe := quotient_one_le rows gaps a positive few le rowsRounded
    obtain ⟨one, oneRounded, exact⟩ := nearest?_natCast 1 (by decide)
    rw [Nat.cast_one] at oneRounded exact
    rw [← exact]
    exact nearest?_mono _ _ _ _ zero_le_one oneLe oneRounded rounded
  upper := by
    have oneLe := quotient_one_le rows gaps a positive few le rowsRounded
    have gapsRat : (0 : ℚ) < gaps := Nat.cast_pos.mpr positive
    have rowsError := (abs_le.mp (natCast_error rows a rowsRounded)).2
    have stepError := (abs_le.mp (nearest?_error _ _ (normal_of_one_le _ oneLe) rounded)).2
    have cancel : a.value / gaps * gaps = a.value := div_mul_cancel₀ _ gapsRat.ne'
    have product := mul_le_mul_of_nonneg_right stepError gapsRat.le
    rw [sub_mul, cancel, div_mul_eq_mul_div, cancel] at product
    calc step.value * gaps ≤ a.value * (1 + 1 / 2 ^ 53) := by linarith
      _ ≤ rows * (1 + 1 / 2 ^ 53) * (1 + 1 / 2 ^ 53) :=
        mul_le_mul_of_nonneg_right (by linarith) (by norm_num)
      _ = rows * (1 + 1 / 2 ^ 53) ^ 2 := by ring
  whole := by
    intro same
    subst same
    obtain ⟨b, gapsRounded, exact⟩ := nearest?_natCast gaps few
    obtain ⟨one, oneRounded, oneExact⟩ := nearest?_natCast 1 (by decide)
    obtain rfl : a = b := Option.some.inj (rowsRounded.symm.trans gapsRounded)
    rw [exact, div_self (Nat.cast_pos.mpr positive).ne', ← Nat.cast_one, oneRounded] at rounded
    cases rounded
    rw [oneExact, Nat.cast_one]

end Quotient

theorem pace_exists (rows gaps : Nat) (positive : 0 < gaps) (few : gaps < 2 ^ 53)
    (le : gaps ≤ rows) (addressable : rows < 2 ^ 64) :
    ∃ step, (ofNat rows).div (ofNat gaps) = .finite false step ∧ Pace rows gaps step := by
  obtain ⟨a, rowsRounded⟩ := nearest?_exists rows (Nat.cast_nonneg _) 64
    (by exact_mod_cast addressable) (by decide)
  have oneLe := quotient_one_le rows gaps a positive few le rowsRounded
  have quotientSmall : a.value / gaps < 2 ^ 65 := by
    have rowsRat : (rows : ℚ) < 2 ^ 64 := by exact_mod_cast addressable
    have rowsError := (abs_le.mp (natCast_error rows a rowsRounded)).2
    calc a.value / gaps ≤ a.value := div_le_self a.value_nonneg (by exact_mod_cast positive)
      _ < 2 ^ 65 := by linarith
  obtain ⟨step, rounded⟩ := nearest?_exists _ (zero_le_one.trans oneLe) 65 quotientSmall (by decide)
  exact ⟨step, step_computed rows gaps a step positive few rowsRounded rounded,
    pace_of_rounded rows gaps a positive few le rowsRounded step rounded⟩

theorem multiple_lt_rows (rows gaps i : Nat) (step p : Magnitude) (few : gaps ≤ 2 ^ 50)
    (pace : Pace rows gaps step) (positive : 0 < rows) (inner : i < gaps)
    (rounded : nearest? (i * step.value) = some p) : p.value < rows := by
  have innerRat : (i : ℚ) + 1 ≤ gaps := by exact_mod_cast inner
  have fewRat : (gaps : ℚ) ≤ 2 ^ 50 := by exact_mod_cast few
  have rowsRat : (0 : ℚ) < rows := Nat.cast_pos.mpr positive
  have gapsRat : (0 : ℚ) < gaps := by linarith [(Nat.cast_nonneg i : (0 : ℚ) ≤ i)]
  have error := (abs_le.mp (multiple_error step p i pace.one_le rounded)).2
  have stepNonneg := step.value_nonneg
  have bound : p.value * gaps ≤ (gaps - 1) * (rows * (1 + 1 / 2 ^ 53) ^ 3) := by
    calc p.value * gaps ≤ (i * step.value * (1 + 1 / 2 ^ 53)) * gaps := by
          apply mul_le_mul_of_nonneg_right _ gapsRat.le
          linarith
      _ = i * (1 + 1 / 2 ^ 53) * (step.value * gaps) := by ring
      _ ≤ (gaps - 1) * (1 + 1 / 2 ^ 53) * (rows * (1 + 1 / 2 ^ 53) ^ 2) := by
          apply mul_le_mul _ pace.upper (by positivity) (by nlinarith)
          apply mul_le_mul_of_nonneg_right _ (by norm_num)
          linarith
      _ = _ := by ring
  -- Three roundings up are less than the gap that is left out, since there are few of them.
  have shrinks : ((gaps : ℚ) - 1) * (1 + 1 / 2 ^ 53) ^ 3 < gaps := by
    norm_num
    linarith
  have total : p.value * gaps < rows * gaps := by
    calc p.value * gaps ≤ rows * ((gaps - 1) * (1 + 1 / 2 ^ 53) ^ 3) := by linarith
      _ < rows * gaps := mul_lt_mul_of_pos_left shrinks rowsRat
  exact lt_of_mul_lt_mul_right total gapsRat.le

theorem multiple_computed (rows gaps i : Nat) (step : Magnitude) (positive : 0 < gaps)
    (addressable : rows < 2 ^ 64) (few : i < 2 ^ 53) (pace : Pace rows gaps step) :
    ∃ p, (ofNat i).mul (.finite false step) = .finite false p ∧
      nearest? (i * step.value) = some p := by
  have gapsRat : (1 : ℚ) ≤ gaps := by exact_mod_cast positive
  have rowsRat : (rows : ℚ) ≤ 2 ^ 64 := by exact_mod_cast addressable.le
  have iRat : (i : ℚ) ≤ 2 ^ 53 := by exact_mod_cast few.le
  have stepSmall : step.value ≤ 2 ^ 65 := by
    calc step.value ≤ step.value * gaps := le_mul_of_one_le_right step.value_nonneg gapsRat
      _ ≤ rows * (1 + 1 / 2 ^ 53) ^ 2 := pace.upper
      _ ≤ 2 ^ 64 * 2 := mul_le_mul rowsRat (by norm_num) (by positivity) (by norm_num)
      _ = 2 ^ 65 := by norm_num
  have small : i * step.value < 2 ^ 120 := by
    calc i * step.value ≤ 2 ^ 53 * 2 ^ 65 :=
          mul_le_mul iRat stepSmall step.value_nonneg (by norm_num)
      _ < 2 ^ 120 := by norm_num
  obtain ⟨b, bRounded, bValue⟩ := nearest?_natCast i few
  obtain ⟨p, rounded⟩ := nearest?_exists _ (mul_nonneg (Nat.cast_nonneg i) step.value_nonneg) 120
    small (by decide)
  refine ⟨p, ?_, rounded⟩
  rw [ofNat_nearest, nearest_of_nearest? _ _ bRounded, mul_nearest, bValue,
    nearest_of_nearest? _ _ rounded]

def spacing (available target : Nat) : Binary64 :=
  (ofNat (available - 1)).div (ofNat (target - 1))

def spacedAt (available target i : Nat) : Nat :=
  ((ofNat i).mul (spacing available target)).truncate

theorem uniformIndices_invalid (available target : Nat)
    (invalid : target = 0 ∨ available < target) :
    uniformIndices available target = .error (.invalidTarget target available) := by
  rw [uniformIndices, if_pos invalid]

theorem uniformIndices_valid (available target : Nat) (positive : 1 ≤ target)
    (le : target ≤ available) :
    uniformIndices available target =
      .ok (if target = 1 then [0]
        else (List.range (target - 1)).map (spacedAt available target) ++ [available - 1]) := by
  rw [uniformIndices, if_neg (by omega)]
  split <;> rfl

theorem uniformIndices_length (available target : Nat) (indices : List Nat)
    (computed : uniformIndices available target = .ok indices) :
    indices.length = target ∧ 1 ≤ target ∧ target ≤ available := by
  by_cases invalid : target = 0 ∨ available < target
  next =>
    rw [uniformIndices_invalid _ _ invalid] at computed
    cases computed
  next =>
    rw [uniformIndices_valid _ _ (by omega) (by omega)] at computed
    cases computed
    refine ⟨?_, by omega, by omega⟩
    split
    next single => exact single.symm
    next => simp; omega

section Valid

variable (available target : Nat) (addressable : available < 2 ^ 64) (le : target ≤ available)
  (small : target ≤ 2 ^ 50)

include addressable le small

theorem spacedAt_exact (i : Nat) (inner : i < target - 1) :
    ∃ step p, spacing available target = .finite false step ∧
      Pace (available - 1) (target - 1) step ∧
      (ofNat i).mul (spacing available target) = .finite false p ∧
      nearest? (i * step.value) = some p ∧
      spacedAt available target i = ⌊p.value⌋₊ ∧ spacedAt available target i < available - 1 := by
  obtain ⟨step, computed, pace⟩ := pace_exists (available - 1) (target - 1) (by omega) (by omega)
    (by omega) (by omega)
  obtain ⟨p, product, rounded⟩ := multiple_computed _ _ i step (by omega) (by omega) (by omega) pace
  have below := multiple_lt_rows _ _ i step p (by omega) pace (by omega) inner rounded
  have floor : ⌊p.value⌋₊ < available - 1 := (Nat.floor_lt p.value_nonneg).mpr below
  have whole : spacedAt available target i = ⌊p.value⌋₊ := by
    -- A number below the last row is never cut at the word size.
    rw [spacedAt, spacing, computed, product, truncate_finite]
    apply Nat.min_eq_left
    simp only [wordMax]
    omega
  refine ⟨step, p, computed, pace, ?_, rounded, whole, whole ▸ floor⟩
  rw [spacing, computed, product]

theorem spacedAt_lt_succ (i : Nat) (inner : i + 1 < target - 1) :
    spacedAt available target i < spacedAt available target (i + 1) := by
  obtain ⟨step, p, computed, pace, _, lower, lowerWhole, _⟩ :=
    spacedAt_exact available target addressable le small i (by omega)
  obtain ⟨again, q, same, _, _, upper, upperWhole, _⟩ :=
    spacedAt_exact available target addressable le small (i + 1) inner
  rw [computed] at same
  cases same
  rw [lowerWhole, upperWhole]
  exact multiples_apart step p q i (by omega) pace.one_le lower upper

theorem spacedAt_strict (i j : Nat) (less : i < j) (inner : j < target - 1) :
    spacedAt available target i < spacedAt available target j := by
  induction j with
  | zero => omega
  | succ j ih =>
    have next := spacedAt_lt_succ available target addressable le small j inner
    rcases Nat.lt_succ_iff_lt_or_eq.mp less with before | rfl
    · exact Nat.lt_trans (ih before (by omega)) next
    · exact next

theorem spacedAt_zero (inner : 0 < target - 1) : spacedAt available target 0 = 0 := by
  obtain ⟨step, p, _, _, _, rounded, whole, _⟩ :=
    spacedAt_exact available target addressable le small 0 inner
  obtain ⟨zero, exact, value⟩ := nearest?_natCast 0 (by decide)
  rw [Nat.cast_zero, zero_mul, ← Nat.cast_zero, exact] at rounded
  cases rounded
  rw [whole, value, Nat.floor_natCast]

theorem spacedAt_identity (same : target = available) (i : Nat) (inner : i < target - 1) :
    spacedAt available target i = i := by
  obtain ⟨step, p, _, pace, _, rounded, whole, _⟩ :=
    spacedAt_exact available target addressable le small i inner
  obtain ⟨exact, exactRounded, value⟩ := nearest?_natCast i (by omega)
  rw [pace.whole (by rw [same]), mul_one, exactRounded] at rounded
  cases rounded
  rw [whole, value, Nat.floor_natCast]

end Valid

/-- Positions of so many rows among the available ones, in order and each at most once. -/
structure StrictSelection (available target : Nat) (indices : List Nat) : Prop where
  length : indices.length = target
  first : indices.head? = some 0
  increasing : indices.Pairwise (· < ·)
  inside : ∀ index ∈ indices, index ≤ available - 1
  last : 1 < target → indices.getLast? = some (available - 1)
  whole : target = available → indices = List.range available

theorem StrictSelection.lt (available target : Nat) (indices : List Nat)
    (selection : StrictSelection available target indices) (positive : 0 < available) :
    ∀ index ∈ indices, index < available := by
  intro index member
  have last := selection.inside index member
  omega

theorem single_strict (available : Nat) (positive : 1 ≤ available) :
    StrictSelection available 1 [0] where
  length := rfl
  first := rfl
  increasing := List.pairwise_singleton _ _
  inside := by simp
  last := by simp
  whole := by
    intro same
    subst same
    rfl

theorem spaced_strict (available target : Nat) (addressable : available < 2 ^ 64)
    (le : target ≤ available) (small : target ≤ 2 ^ 50) (several : 1 < target) :
    StrictSelection available target
      ((List.range (target - 1)).map (spacedAt available target) ++ [available - 1]) where
  length := by
    simp only [List.length_append, List.length_map, List.length_range, List.length_singleton]
    omega
  first := by
    obtain ⟨rest, split⟩ : ∃ rest, target - 1 = rest + 1 := ⟨target - 2, by omega⟩
    simp [split, List.range_succ_eq_map,
      spacedAt_zero available target addressable le small (by omega)]
  increasing := by
    rw [List.pairwise_append, List.pairwise_map]
    refine ⟨?_, List.pairwise_singleton _ _, ?_⟩
    · apply List.pairwise_lt_range.imp_of_mem
      intro i j _ member less
      exact spacedAt_strict available target addressable le small i j less
        (List.mem_range.mp member)
    · intro index member last isLast
      obtain ⟨i, inRange, rfl⟩ := List.mem_map.mp member
      obtain ⟨_, _, _, _, _, _, _, below⟩ :=
        spacedAt_exact available target addressable le small i (List.mem_range.mp inRange)
      rwa [List.mem_singleton.mp isLast]
  inside := by
    intro index member
    rcases List.mem_append.mp member with inner | last
    · obtain ⟨i, inRange, rfl⟩ := List.mem_map.mp inner
      obtain ⟨_, _, _, _, _, _, _, below⟩ :=
        spacedAt_exact available target addressable le small i (List.mem_range.mp inRange)
      exact Nat.le_of_lt below
    · rw [List.mem_singleton.mp last]
  last := by simp
  whole := by
    intro same
    have inner : (List.range (target - 1)).map (spacedAt available target) =
        List.range (target - 1) := by
      conv_rhs => rw [← List.map_id (List.range (target - 1))]
      apply List.map_congr_left
      intro i member
      exact spacedAt_identity available target addressable le small same i
        (List.mem_range.mp member)
    rw [inner, same, ← List.range_succ, Nat.succ_eq_add_one, Nat.sub_add_cancel (by omega)]

theorem uniformIndices_selection (available target : Nat) (addressable : available < 2 ^ 64)
    (positive : 1 ≤ target) (le : target ≤ available) (small : target ≤ 2 ^ 50) :
    ∃ indices, uniformIndices available target = .ok indices ∧
      StrictSelection available target indices := by
  refine ⟨_, uniformIndices_valid available target positive le, ?_⟩
  by_cases single : target = 1
  next =>
    rw [if_pos single, single]
    exact single_strict available (by omega)
  next =>
    rw [if_neg single]
    exact spaced_strict available target addressable le small (by omega)

end PlotTables
