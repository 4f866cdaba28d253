import PlotTables.Proofs.Binary64.Closest

set_option autoImplicit false

namespace PlotTables.Magnitude

/-- Halfway from the largest double to the next power of two, where rounding leaves the doubles. -/
def ceiling : Nat := (2 ^ 54 - 1) * 2 ^ 970

/-- To nearest, ties to even, without overflow. The sign is kept apart. -/
structure RoundsTo (x : ℚ) (m : Magnitude) : Prop where
  nearest : IsNearest x m
  finite : x < ceiling

theorem value_lt_value (m n : Magnitude) : m.value < n.value ↔ m.scaled < n.scaled := by
  rw [value, value, div_lt_div_iff_of_pos_right unit_rat_pos, Nat.cast_lt]

theorem exists_between (m n : Magnitude) (less : m.scaled < n.scaled)
    (mEven : m.significand % 2 = 0) (nEven : n.significand % 2 = 0) :
    ∃ between : Magnitude, m.scaled < between.scaled ∧ between.scaled < n.scaled := by
  have room := m.significand_lt
  let next : Magnitude := ⟨m.significand + 1, m.exponent, by omega, m.exponent_le,
    m.canonical.imp_right Nat.le_succ_of_le⟩
  have step := Nat.two_pow_pos m.exponent
  have above : next.scaled = m.scaled + 2 ^ m.exponent := Nat.succ_mul _ _
  refine ⟨next, by omega, ?_⟩
  rcases Nat.lt_trichotomy m.exponent n.exponent with coarser | same | finer
  next => exact Nat.lt_of_lt_of_le next.scaled_lt (le_scaled_of_exponent_lt next n coarser)
  next =>
    rw [scaled, scaled, same] at less
    have larger := Nat.lt_of_mul_lt_mul_right less
    rw [scaled, scaled, ← same]
    apply Nat.mul_lt_mul_of_pos_right _ step
    change m.significand + 1 < n.significand
    omega
  next =>
    have smaller := Nat.lt_of_lt_of_le n.scaled_lt (le_scaled_of_exponent_lt n m finer)
    omega

theorem IsNearest.not_lt (x : ℚ) (m n : Magnitude) (mNearest : IsNearest x m)
    (nNearest : IsNearest x n) : ¬m.scaled < n.scaled := by
  intro less
  have tie := le_antisymm (mNearest.nearest n) (nNearest.nearest m)
  have different : n ≠ m := by
    intro same
    rw [same] at less
    exact Nat.lt_irrefl _ less
  obtain ⟨between, above, below⟩ := exists_between m n less (mNearest.even n different tie)
    (nNearest.even m different.symm tie.symm)
  rw [← value_lt_value] at above below
  have least := mNearest.nearest between
  rcases le_total x between.value with left | right
  next =>
    have far := le_abs_self (n.value - x)
    rw [abs_of_nonneg (sub_nonneg.mpr left)] at least
    linarith
  next =>
    have far := neg_abs_le (m.value - x)
    rw [abs_of_nonpos (sub_nonpos.mpr right)] at least
    linarith

theorem IsNearest.unique (x : ℚ) (m n : Magnitude) (mNearest : IsNearest x m)
    (nNearest : IsNearest x n) : m = n :=
  scaled_injective m n (Nat.le_antisymm (Nat.not_lt.mp (nNearest.not_lt x n m mNearest))
    (Nat.not_lt.mp (mNearest.not_lt x m n nNearest)))

theorem grid_double (den finer coarser : Nat) (less : finer < coarser) :
    den * 2 ^ finer * 2 ≤ den * 2 ^ coarser := by
  rw [Nat.mul_assoc, ← Nat.pow_succ]
  exact Nat.mul_le_mul_left _ (Nat.pow_le_pow_right (by decide) less)

section Range

-- The last grid and the limit are only known by what they are in halves of that grid.
variable (num den limit half : Nat) (positive : 0 < den) (last : den * 2 ^ 2045 = 2 * half)
  (units : limit + half = 2 ^ 54 * half)

include positive last units

theorem ofRatio?_exists_iff_lt : (∃ m, ofRatio? num den = some m) ↔ num < limit := by
  have grid : 0 < den * 2 ^ exponentOf num den := Nat.mul_pos positive (Nat.two_pow_pos _)
  rw [ofRatio?_exists_iff]
  rcases Nat.lt_trichotomy (exponentOf num den) 2045 with inside | same | beyond
  next =>
    have below := div_lt_of_exponentOf num den
    rw [Nat.div_lt_iff_lt_mul grid] at below
    have finer := grid_double den _ _ inside
    rw [last] at finer
    clear last
    exact iff_of_true (.inl inside) (by omega)
  next =>
    have error := roundHalfEven_error num _ grid
    have carry := le_roundHalfEven_of_even num _ (2 ^ 53) grid (by decide)
    rw [same] at grid
    rw [same, last] at error carry ⊢
    rw [last] at grid
    clear last
    constructor
    next =>
      -- A tie there would be rounded up, to the even side.
      intro finite
      by_contra large
      have up := carry (by omega)
      omega
    next =>
      intro small
      refine .inr ⟨rfl, ?_⟩
      by_contra up
      have far := Nat.mul_le_mul_right (2 * half) (Nat.le_of_not_lt up)
      omega
  next =>
    have above := le_div_of_exponentOf num den (by omega)
    rw [Nat.le_div_iff_mul_le grid] at above
    have coarser := grid_double den _ _ beyond
    rw [last] at coarser
    exact iff_of_false (by omega) (by omega)

end Range

theorem last_grid (den : Nat) : den * 2 ^ 2045 = 2 * (2 ^ 970 * unit * den) := by
  have power : 2 ^ 2045 = 2 * (2 ^ 970 * unit) := by
    rw [unit, ← Nat.pow_add, Nat.mul_comm, ← Nat.pow_succ]
  rw [power, Nat.mul_comm, Nat.mul_assoc]

theorem ceiling_grid (den : Nat) :
    ceiling * unit * den + 2 ^ 970 * unit * den = 2 ^ 54 * (2 ^ 970 * unit * den) := by
  have whole (half : Nat) : (2 ^ 54 - 1) * half + half = 2 ^ 54 * half := by omega
  rw [ceiling, ← Nat.add_mul, ← Nat.add_mul, whole, Nat.mul_assoc, Nat.mul_assoc, Nat.mul_assoc]

theorem nearest?_exists_iff (x : ℚ) (nonneg : 0 ≤ x) :
    (∃ m, nearest? x = some m) ↔ x < ceiling := by
  obtain ⟨num, den, positive, ratio, same⟩ := nearest?_ratio x nonneg
  rw [same, ofRatio?_exists_iff_lt num den _ _ positive (last_grid den) (ceiling_grid den), ratio,
    div_lt_iff₀ unit_rat_pos, div_lt_iff₀ (Nat.cast_pos.mpr positive)]
  exact_mod_cast Iff.rfl

theorem roundsTo_iff (x : ℚ) (m : Magnitude) (nonneg : 0 ≤ x) :
    RoundsTo x m ↔ nearest? x = some m := by
  constructor
  next =>
    intro rounds
    obtain ⟨n, rounded⟩ := (nearest?_exists_iff x nonneg).mpr rounds.finite
    rw [rounds.nearest.unique x m n (nearest?_isNearest x n nonneg rounded), rounded]
  next =>
    intro rounded
    exact ⟨nearest?_isNearest x m nonneg rounded, (nearest?_exists_iff x nonneg).mp ⟨m, rounded⟩⟩

theorem nearest?_between (x y z : ℚ) (m : Magnitude) (nonneg : 0 ≤ x) (low : x ≤ y) (high : y ≤ z)
    (lower : nearest? x = some m) (upper : nearest? z = some m) : nearest? y = some m := by
  obtain ⟨n, rounded⟩ := nearest?_exists_of_le y z m (nonneg.trans low) high upper
  have above := nearest?_mono x y m n nonneg low lower rounded
  have below := nearest?_mono y z n m (nonneg.trans low) high rounded upper
  have same : n.scaled = m.scaled := by
    rw [← not_lt, value_lt_value] at above below
    omega
  rw [rounded, scaled_injective n m same]

theorem ofRatio?_between (low num high den : Nat) (m : Magnitude) (positive : 0 < den)
    (above : low ≤ num) (below : num ≤ high) (lower : ofRatio? low den = some m)
    (upper : ofRatio? high den = some m) : ofRatio? num den = some m := by
  have divisor : (0 : ℚ) < den := Nat.cast_pos.mpr positive
  have mono (a b : Nat) (le : a ≤ b) : (a : ℚ) / den / unit ≤ b / den / unit := by
    rwa [div_le_div_iff_of_pos_right unit_rat_pos, div_le_div_iff_of_pos_right divisor, Nat.cast_le]
  have nonneg : (0 : ℚ) ≤ low / den / unit :=
    div_nonneg (div_nonneg (Nat.cast_nonneg low) divisor.le) unit_rat_pos.le
  rw [ofRatio?_nearest _ _ positive] at lower upper ⊢
  exact nearest?_between _ _ _ m nonneg (mono low num above) (mono num high below) lower upper

end PlotTables.Magnitude
