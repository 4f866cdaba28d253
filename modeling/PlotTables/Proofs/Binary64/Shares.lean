import PlotTables.Proofs.Binary64.Rounded

set_option autoImplicit false

namespace PlotTables

open Magnitude Binary64

namespace Magnitude

theorem exists_multiple (count e : Nat) (few : count ≤ 2 ^ 53) (range : e < 2044) :
    ∃ m : Magnitude, m.scaled = count * 2 ^ e := by
  rcases Nat.lt_or_eq_of_le few with less | limit
  next =>
    obtain ⟨m, _, exact⟩ := ofRatio?_multiple count e less range.le
    exact ⟨m, exact⟩
  next =>
    obtain ⟨m, _, exact⟩ := ofRatio?_multiple (2 ^ 52) (e + 1) (by decide) range
    have same : 2 ^ 52 * 2 ^ (e + 1) = count * 2 ^ e := by
      rw [limit, Nat.pow_succ 2 e]
      omega
    exact ⟨m, exact.trans same⟩

theorem exists_count (count : Nat) (few : count ≤ 2 ^ 53) :
    ∃ m, nearest? count = some m ∧ m.value = count := by
  obtain ⟨m, exact⟩ := exists_multiple count 1074 few (by decide)
  have same : m.value = count := by
    rw [value, exact, ← unit, Nat.cast_mul, mul_div_cancel_right₀ _ unit_rat_pos.ne']
  exact ⟨m, by rw [← same, nearest?_value], same⟩

theorem exists_fraction (count : Nat) (few : count ≤ 2 ^ 53) :
    ∃ m : Magnitude, m.value = count / 2 ^ 53 := by
  obtain ⟨m, exact⟩ := exists_multiple count 1021 few (by decide)
  have split : (unit : ℚ) = 2 ^ 53 * 2 ^ 1021 := by
    rw [unit_split 1021 (by decide), Nat.cast_mul, Nat.cast_pow, Nat.cast_pow, Nat.cast_ofNat]
  refine ⟨m, ?_⟩
  rw [value, exact, split, Nat.cast_mul, Nat.cast_pow, Nat.cast_ofNat,
    mul_div_mul_right _ _ (by positivity)]

section IsNearest

variable (x : ℚ) (m : Magnitude) (nearest : IsNearest x m)

include nearest

theorem IsNearest.value_eq (candidate : Magnitude) (same : candidate.value = x) : m.value = x := by
  have distance := nearest.nearest candidate
  rw [same, sub_self, abs_zero] at distance
  exact sub_eq_zero.mp (abs_nonpos_iff.mp distance)

theorem IsNearest.error (nonneg : 0 ≤ x) (le : x ≤ 1) : |m.value - x| ≤ 1 / 2 ^ 54 := by
  let count := ⌊x * 2 ^ 53 + 1 / 2⌋₊
  have low : (count : ℚ) ≤ x * 2 ^ 53 + 1 / 2 := Nat.floor_le (by positivity)
  have high : x * 2 ^ 53 + 1 / 2 < count + 1 := Nat.lt_floor_add_one _
  have few : count ≤ 2 ^ 53 := by
    have below : (count : ℚ) < 2 ^ 53 + 1 := by linarith
    exact Nat.lt_succ_iff.mp (by exact_mod_cast below)
  obtain ⟨candidate, exact⟩ := exists_fraction count few
  refine (nearest.nearest candidate).trans ?_
  rw [exact, abs_le]
  constructor <;> linarith

end IsNearest

/-- The double nearest to a share, and what it keeps of it. -/
structure Share (part whole : Nat) (m : Magnitude) : Prop where
  rounds : RoundsTo (part / whole) m
  close : |m.value - part / whole| ≤ 1 / 2 ^ 54
  positive : 0 < m.value
  le_one : m.value ≤ 1
  one_iff : m.value = 1 ↔ part = whole

theorem share_gap (part other whole : Nat) (less : part < other) :
    (part / whole : ℚ) + 1 / whole ≤ other / whole := by
  have next : (part : ℚ) + 1 ≤ other := by exact_mod_cast less
  rw [← add_div]
  exact div_le_div_of_nonneg_right next (Nat.cast_nonneg whole)

end Magnitude

section Share

variable (part whole : Nat) (nonzero : 1 ≤ part) (le : part ≤ whole) (few : whole ≤ 2 ^ 53)

include nonzero le

theorem share_range : (0 : ℚ) < part / whole ∧ (part / whole : ℚ) ≤ 1 := by
  have wholePos : (0 : ℚ) < whole := by exact_mod_cast nonzero.trans le
  have partPos : (0 : ℚ) < part := by exact_mod_cast nonzero
  exact ⟨div_pos partPos wholePos, (div_le_one wholePos).mpr (by exact_mod_cast le)⟩

include few

theorem share_of_rounded (m : Magnitude) (rounded : nearest? (part / whole) = some m) :
    Share part whole m := by
  obtain ⟨positive, atMostOne⟩ := share_range part whole nonzero le
  have wholePos : (0 : ℚ) < whole := by exact_mod_cast nonzero.trans le
  have nearest := nearest?_isNearest _ m positive.le rounded
  have close := nearest.error _ _ positive.le atMostOne
  obtain ⟨low, high⟩ := abs_le.mp close
  have fine : (1 : ℚ) / 2 ^ 53 ≤ 1 / whole :=
    one_div_le_one_div_of_le wholePos (by exact_mod_cast few)
  obtain ⟨one, oneRounded, oneValue⟩ := exists_count 1 (by decide)
  rw [Nat.cast_one] at oneRounded oneValue
  refine ⟨(roundsTo_iff _ m positive.le).mpr rounded, close, ?_, ?_, ?_⟩
  · have least := share_gap 0 part whole nonzero
    rw [Nat.cast_zero, zero_div] at least
    linarith
  · rw [← oneValue]
    exact nearest?_mono _ _ _ _ positive.le atMostOne rounded oneRounded
  · constructor
    next =>
      intro full
      by_contra different
      have most := share_gap part whole whole (by omega)
      rw [div_self wholePos.ne'] at most
      linarith
    next =>
      intro same
      rw [same, div_self wholePos.ne'] at nearest
      exact nearest.value_eq 1 m one oneValue

theorem share_computed : ∃ m, (ofNat part).div (ofNat whole) = .finite false m ∧
    Share part whole m := by
  obtain ⟨positive, atMostOne⟩ := share_range part whole nonzero le
  obtain ⟨a, partRounded, partValue⟩ := exists_count part (le.trans few)
  obtain ⟨b, wholeRounded, wholeValue⟩ := exists_count whole few
  obtain ⟨m, rounded⟩ := nearest?_exists (part / whole) positive.le 1 (by linarith) (by decide)
  have divisor : 0 < b.value := by
    rw [wholeValue]
    exact_mod_cast nonzero.trans le
  refine ⟨m, ?_, share_of_rounded part whole nonzero le few m rounded⟩
  rw [div_ofNat part whole a b partRounded wholeRounded divisor, partValue, wholeValue,
    nearest_of_nearest? _ m rounded]

end Share

theorem Magnitude.Share.lt (part other whole : Nat) (m n : Magnitude) (few : whole ≤ 2 ^ 53)
    (less : part < other) (le : other ≤ whole) (first : Share part whole m)
    (second : Share other whole n) : m.value < n.value := by
  have wholePos : (0 : ℚ) < whole := Nat.cast_pos.mpr (by omega)
  have firstHigh := (abs_le.mp first.close).2
  have secondLow := (abs_le.mp second.close).1
  rcases Nat.lt_or_eq_of_le few with small | limit
  next =>
    -- Both errors together are less than the distance of the shares.
    have smallRat : (whole : ℚ) < 2 ^ 53 := by exact_mod_cast small
    have apart : (1 : ℚ) / 2 ^ 53 < 1 / whole := one_div_lt_one_div_of_lt wholePos smallRat
    have gap := share_gap part other whole less
    linarith
  next =>
    -- These shares are doubles.
    obtain ⟨a, aValue⟩ := exists_fraction part (by omega)
    obtain ⟨b, bValue⟩ := exists_fraction other (by omega)
    have wholeRat : (whole : ℚ) = 2 ^ 53 := by exact_mod_cast limit
    have lessRat : (part : ℚ) < other := by exact_mod_cast less
    rw [first.rounds.nearest.value_eq _ m a (by rw [aValue, wholeRat]),
      second.rounds.nearest.value_eq _ n b (by rw [bValue, wholeRat])]
    exact div_lt_div_of_pos_right lessRat wholePos

end PlotTables
