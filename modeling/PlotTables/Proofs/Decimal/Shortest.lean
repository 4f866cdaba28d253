import PlotTables.Decimal.Shortest
import PlotTables.Proofs.Binary64.Closest

set_option autoImplicit false

namespace PlotTables

theorem Tie.round_sides (tie : Tie) (num den : Nat) (positive : 0 < den) :
    tie.round num den = num / den ∨ tie.round num den = num / den + 1 := by
  cases tie with
  | even =>
    rcases roundHalfEven_sides num den with ⟨down, _⟩ | ⟨up, _⟩
    · exact .inl down
    · exact .inr up
  | up =>
    have whole := Nat.div_add_mod' num den
    have small := Nat.mod_lt num positive
    have next : (num / den + 1) * (2 * den) = num / den * (2 * den) + 2 * den := Nat.succ_mul _ _
    have twice : num / den * (2 * den) = 2 * (num / den * den) := by ring
    have after : (num / den + 1 + 1) * (2 * den) = num / den * (2 * den) + 2 * (2 * den) := by ring
    simp only [Tie.round]
    rcases Nat.lt_or_ge (2 * (num % den)) den with low | high
    · exact .inl (Nat.div_eq_of_lt_le (by omega) (by omega))
    · exact .inr (Nat.div_eq_of_lt_le (by omega) (by omega))

section Multiple

variable (tie : Tie) (readsBack : Nat → Bool) (value step : Nat)

theorem Tie.multiple?_some (positive : 0 < step) (coefficient : Nat)
    (found : tie.multiple? readsBack value step = some coefficient) :
    readsBack (coefficient * step) = true ∧ coefficient ≤ value / step + 1 := by
  simp only [Tie.multiple?] at found
  split at found
  next low high =>
    cases found
    rcases tie.round_sides value step positive with down | up
    · rw [down]
      exact ⟨low, Nat.le_succ _⟩
    · rw [up]
      exact ⟨high, Nat.le_refl _⟩
  next low _ =>
    cases found
    exact ⟨low, Nat.le_succ _⟩
  next _ high =>
    cases found
    exact ⟨high, Nat.le_refl _⟩
  next => cases found

theorem Tie.multiple?_none (missed : tie.multiple? readsBack value step = none) :
    readsBack (value / step * step) = false ∧ readsBack ((value / step + 1) * step) = false := by
  simp only [Tie.multiple?] at missed
  split at missed
  next => cases missed
  next => cases missed
  next => cases missed
  next low high => exact ⟨low, high⟩

end Multiple

namespace Decimal

def value (d : Decimal) : ℚ := d.coefficient * 10 ^ d.exponent

theorem eta (d : Decimal) (exponent : Int) (same : d.exponent = exponent) :
    d = ⟨d.coefficient, exponent⟩ := by
  rw [← same]

theorem value_nonneg (d : Decimal) : 0 ≤ d.value :=
  mul_nonneg (Nat.cast_nonneg _) (zpow_nonneg (by norm_num) _)

theorem value_ofNat (d : Decimal) (power : Nat) (up : d.exponent = .ofNat power) :
    d.value = d.coefficient * (10 ^ power : Nat) := by
  rw [value, up, Int.ofNat_eq_natCast, zpow_natCast, Nat.cast_pow, Nat.cast_ofNat]

theorem value_negSucc (d : Decimal) (less : Nat) (down : d.exponent = .negSucc less) :
    d.value = d.coefficient / (10 ^ (less + 1) : Nat) := by
  rw [value, down, zpow_negSucc, Nat.cast_pow, Nat.cast_ofNat, div_eq_mul_inv]

theorem value_finer (d : Decimal) (exponent : Int) (finer : exponent ≤ d.exponent) :
    value ⟨d.coefficient * 10 ^ (d.exponent - exponent).toNat, exponent⟩ = d.value := by
  have shift : ((d.exponent - exponent).toNat : Int) = d.exponent - exponent :=
    Int.toNat_of_nonneg (Int.sub_nonneg_of_le finer)
  have powers : (10 : ℚ) ^ (d.exponent - exponent).toNat * 10 ^ exponent = 10 ^ d.exponent := by
    rw [← zpow_natCast, ← zpow_add₀ (by norm_num), shift, Int.sub_add_cancel]
  simp only [value]
  rw [Nat.cast_mul, Nat.cast_pow, Nat.cast_ofNat, mul_assoc, powers]

theorem coarsest_found (points : Nat → Option Nat) (finest widest : Nat) :
    ∃ grid coefficient : Nat, coarsest points finest widest = ⟨coefficient, grid - 1074⟩ ∧
      (points grid = some coefficient ∨ (grid = 0 ∧ coefficient = finest)) ∧
      (grid = widest ∨ points (grid + 1) = none) := by
  induction widest with
  | zero => exact ⟨0, finest, rfl, .inr ⟨rfl, rfl⟩, .inl rfl⟩
  | succ grid ih =>
    simp only [coarsest]
    cases found : points (grid + 1) with
    | some coefficient => exact ⟨grid + 1, coefficient, rfl, .inl found, .inl rfl⟩
    | none =>
      obtain ⟨finer, coefficient, shape, stop, limit⟩ := ih
      refine ⟨finer, coefficient, shape, stop, .inr ?_⟩
      rcases limit with rfl | missed
      · exact found
      · exact missed

end Decimal

namespace Magnitude

theorem decimalUnit_pos : 0 < decimalUnit := by
  unfold decimalUnit
  positivity

theorem isReadFrom_iff (m : Magnitude) (n : Nat) :
    m.isReadFrom n = true ↔ ofRatio? n decimalUnit = some m := by
  unfold isReadFrom
  exact beq_iff_eq

variable (m : Magnitude) (tie : Tie)

theorem decimalScaled_le_of_missed (grid : Nat) (missed : m.onGrid? tie grid = none) :
    m.decimalScaled ≤ 2 ^ 53 * 10 ^ grid := by
  obtain ⟨below, above⟩ := tie.multiple?_none _ _ _ missed
  rw [Bool.eq_false_iff, Ne, isReadFrom_iff] at below above
  have step : 0 < 10 ^ grid := Nat.pow_pos (by decide)
  have whole := Nat.div_add_mod' m.decimalScaled (10 ^ grid)
  have small := Nat.mod_lt m.decimalScaled step
  have next : (m.decimalScaled / 10 ^ grid + 1) * 10 ^ grid =
      m.decimalScaled / 10 ^ grid * 10 ^ grid + 10 ^ grid := Nat.succ_mul _ _
  have place : m.decimalScaled = m.significand * (decimalUnit * 2 ^ m.exponent) := by
    rw [decimalScaled, scaled]
    ring
  have units : m.scaled * decimalUnit = m.decimalScaled := rfl
  have farAbove : decimalUnit * 2 ^ m.exponent ≤ 2 * 10 ^ grid := by
    by_contra near
    apply above
    exact ofRatio?_above _ _ m decimalUnit_pos (by omega) (by omega)
  -- At a power of two a step half as wide may miss already, but the significand is smallest there.
  by_cases inner : m.exponent = 0 ∨ 2 ^ 52 < m.significand
  next =>
    have far : decimalUnit * 2 ^ m.exponent ≤ 10 ^ grid := by
      by_contra near
      rcases Nat.lt_or_ge (2 * (m.decimalScaled % 10 ^ grid)) (decimalUnit * 2 ^ m.exponent) with
        low | high
      · apply below
        exact ofRatio?_of_near _ _ m decimalUnit_pos (fun _ => inner) (by omega) (by omega)
      · apply above
        exact ofRatio?_above _ _ m decimalUnit_pos (by omega) (by omega)
    rw [place]
    exact Nat.mul_le_mul m.significand_lt.le far
  next =>
    have power : m.significand ≤ 2 ^ 52 := by omega
    calc m.decimalScaled = m.significand * (decimalUnit * 2 ^ m.exponent) := place
      _ ≤ 2 ^ 52 * (2 * 10 ^ grid) := Nat.mul_le_mul power farAbove
      _ = 2 ^ 53 * 10 ^ grid := by ring

theorem ofRatio?_decimalScaled : ofRatio? m.decimalScaled decimalUnit = some m := by
  have grid : 0 < decimalUnit * 2 ^ m.exponent := Nat.mul_pos decimalUnit_pos (Nat.two_pow_pos _)
  exact ofRatio?_above _ _ m decimalUnit_pos (Nat.le_refl _) (by rw [← decimalScaled]; omega)

theorem decimalScaled_lt_widest : m.decimalScaled < 10 ^ m.widestGrid := by
  have below : m.decimalScaled < 2 ^ (m.decimalScaled.log2 + 1) := Nat.lt_log2_self
  have enough : (m.decimalScaled.log2 + 1) * 28 ≤ 93 * m.widestGrid := by
    simp only [widestGrid]
    omega
  -- The widest grid comes from `2 ^ 93 < 10 ^ 28`, so both sides are raised to the power of 93.
  apply Nat.lt_of_lt_of_le below
  apply (Nat.pow_le_pow_iff_left (n := 93) (by decide)).mp
  calc (2 ^ (m.decimalScaled.log2 + 1)) ^ 93 = (2 ^ 93) ^ (m.decimalScaled.log2 + 1) := by
        rw [← Nat.pow_mul, ← Nat.pow_mul, Nat.mul_comm]
    _ ≤ (10 ^ 28) ^ (m.decimalScaled.log2 + 1) := Nat.pow_le_pow_left (by norm_num) _
    _ = 10 ^ ((m.decimalScaled.log2 + 1) * 28) := by rw [← Nat.pow_mul, Nat.mul_comm]
    _ ≤ 10 ^ (93 * m.widestGrid) := Nat.pow_le_pow_right (by decide) enough
    _ = (10 ^ m.widestGrid) ^ 93 := by rw [← Nat.pow_mul, Nat.mul_comm]

theorem shortest_found : ∃ grid coefficient : Nat, m.shortest tie = ⟨coefficient, grid - 1074⟩ ∧
    ofRatio? (coefficient * 10 ^ grid) decimalUnit = some m ∧
    coefficient ≤ m.decimalScaled / 10 ^ grid + 1 ∧
    (coefficient ≤ 1 ∨ m.onGrid? tie (grid + 1) = none) := by
  obtain ⟨grid, coefficient, shape, stop, limit⟩ :=
    Decimal.coarsest_found (m.onGrid? tie) m.decimalScaled m.widestGrid
  have point : ofRatio? (coefficient * 10 ^ grid) decimalUnit = some m ∧
      coefficient ≤ m.decimalScaled / 10 ^ grid + 1 := by
    rcases stop with found | ⟨finest, same⟩
    next =>
      have hit := tie.multiple?_some _ _ (10 ^ grid) (Nat.pow_pos (by decide)) coefficient found
      rwa [isReadFrom_iff] at hit
    next =>
      rw [finest, same, Nat.pow_zero, Nat.mul_one, Nat.div_one]
      exact ⟨m.ofRatio?_decimalScaled, Nat.le_add_right _ 1⟩
  refine ⟨grid, coefficient, shape, point.1, point.2, limit.imp_left fun widest => ?_⟩
  have near := point.2
  rwa [widest, Nat.div_eq_of_lt m.decimalScaled_lt_widest] at near

theorem shortest_coefficient_lt : (m.shortest tie).coefficient < 10 ^ 17 := by
  obtain ⟨grid, coefficient, shape, _, near, limit⟩ := m.shortest_found tie
  rw [shape]
  change coefficient < 10 ^ 17
  rcases limit with single | missed
  next => omega
  next =>
    have coarse := m.decimalScaled_le_of_missed tie (grid + 1) missed
    rw [Nat.pow_succ] at coarse
    have digits : m.decimalScaled / 10 ^ grid ≤ 2 ^ 53 * 10 := by
      apply Nat.div_le_of_le_mul
      calc m.decimalScaled ≤ 2 ^ 53 * (10 ^ grid * 10) := coarse
        _ = 10 ^ grid * (2 ^ 53 * 10) := by ring
    omega

theorem shortest_coefficient_pos (nonzero : m.significand ≠ 0) :
    0 < (m.shortest tie).coefficient := by
  obtain ⟨grid, coefficient, shape, reads, _⟩ := m.shortest_found tie
  rw [shape]
  apply Nat.pos_of_ne_zero
  rintro rfl
  have exact := scaled_of_ofRatio? _ _ m reads
  have none : roundHalfEven 0 (decimalUnit * 2 ^ exponentOf 0 decimalUnit) = 0 := by
    have := roundHalfEven_mul_left 0 (decimalUnit * 2 ^ exponentOf 0 decimalUnit)
      (Nat.mul_pos decimalUnit_pos (Nat.two_pow_pos _))
    rwa [Nat.zero_mul] at this
  rw [Nat.zero_mul, none, Nat.zero_mul, scaled] at exact
  rcases Nat.mul_eq_zero.mp exact with zero | zero
  · exact nonzero zero
  · exact absurd zero (Nat.two_pow_pos _).ne'

theorem nearest?_grid (coefficient grid : Nat) :
    nearest? (Decimal.value ⟨coefficient, grid - 1074⟩) =
      ofRatio? (coefficient * 10 ^ grid) decimalUnit := by
  have units : (decimalUnit : ℚ) * unit = 10 ^ (1074 : ℕ) := by
    have ten : ((5 : ℕ) : ℚ) * (2 : ℕ) = 10 := by norm_num
    rw [decimalUnit, unit, Nat.cast_pow, Nat.cast_pow, ← mul_pow, ten]
  have exact : Decimal.value ⟨coefficient, grid - 1074⟩ =
      (coefficient * 10 ^ grid : Nat) / decimalUnit / unit := by
    rw [Decimal.value, div_div, units, zpow_sub₀ (by norm_num), ← mul_div_assoc, zpow_natCast,
      zpow_ofNat, Nat.cast_mul, Nat.cast_pow, Nat.cast_ofNat]
  rw [exact, ← ofRatio?_nearest _ _ decimalUnit_pos]

theorem shortest_value : nearest? (m.shortest tie).value = some m := by
  obtain ⟨grid, coefficient, shape, reads, _⟩ := m.shortest_found tie
  rw [shape, nearest?_grid, reads]

theorem nearest?_zero (zero : m.significand = 0) (exponent : Int) :
    nearest? (Decimal.value ⟨0, exponent⟩) = some m := by
  have none : m.value = 0 := m.value_of_significand zero
  have same : Decimal.value ⟨0, exponent⟩ = m.value := by
    rw [none, Decimal.value, Nat.cast_zero, zero_mul]
  rw [same, nearest?_value]

end Magnitude

end PlotTables
