import Mathlib.Algebra.Order.Floor.Semifield
import Mathlib.Data.Rat.Floor
import Mathlib.Tactic.FieldSimp
import Mathlib.Tactic.Linarith
import Mathlib.Tactic.Positivity
import Mathlib.Tactic.Ring
import PlotTables.Binary64

set_option autoImplicit false

namespace PlotTables

theorem roundHalfEven_scale (num den scale : Nat) (positive : 0 < scale) :
    roundHalfEven (num * scale) (den * scale) = roundHalfEven num den := by
  have quotient : num * scale / (den * scale) = num / den := Nat.mul_div_mul_right _ _ positive
  have remainder : num * scale % (den * scale) = num % den * scale := Nat.mul_mod_mul_right _ _ _
  have below : 2 * (num % den * scale) < den * scale ↔ 2 * (num % den) < den := by
    rw [← Nat.mul_assoc]
    exact Nat.mul_lt_mul_right positive
  have above : den * scale < 2 * (num % den * scale) ↔ den < 2 * (num % den) := by
    rw [← Nat.mul_assoc]
    exact Nat.mul_lt_mul_right positive
  simp only [roundHalfEven, quotient, remainder, below, above]

theorem roundHalfEven_sides (num den : Nat) :
    (roundHalfEven num den = num / den ∧ 2 * (num % den) ≤ den) ∨
      (roundHalfEven num den = num / den + 1 ∧ den ≤ 2 * (num % den)) := by
  simp only [roundHalfEven]
  split
  next low => exact .inl ⟨rfl, Nat.le_of_lt low⟩
  next =>
    split
    next high => exact .inr ⟨rfl, Nat.le_of_lt high⟩
    next =>
      rcases Nat.mod_two_eq_zero_or_one (num / den) with even | odd
      · exact .inl ⟨by omega, by omega⟩
      · exact .inr ⟨by omega, by omega⟩

theorem roundHalfEven_even (num den : Nat) (tie : 2 * (num % den) = den) :
    roundHalfEven num den % 2 = 0 := by
  simp only [roundHalfEven, tie, Nat.lt_irrefl, if_false]
  omega

theorem roundHalfEven_error (num den : Nat) (positive : 0 < den) :
    2 * (roundHalfEven num den * den) ≤ 2 * num + den ∧
      2 * num ≤ 2 * (roundHalfEven num den * den) + den := by
  have whole := Nat.div_add_mod' num den
  have small := Nat.mod_lt num positive
  have next : (num / den + 1) * den = num / den * den + den := Nat.succ_mul _ _
  rcases roundHalfEven_sides num den with ⟨down, low⟩ | ⟨up, high⟩
  next =>
    rw [down]
    omega
  next =>
    rw [up, next]
    omega

theorem roundHalfEven_mono (num larger den : Nat) (le : num ≤ larger) :
    roundHalfEven num den ≤ roundHalfEven larger den := by
  rcases Nat.lt_or_ge (num / den) (larger / den) with less | same
  next =>
    calc roundHalfEven num den ≤ num / den + 1 := roundHalfEven_le_succ num den
      _ ≤ larger / den := less
      _ ≤ roundHalfEven larger den := div_le_roundHalfEven larger den
  next =>
    have equal : larger / den = num / den := Nat.le_antisymm same (Nat.div_le_div_right le)
    have first := Nat.div_add_mod' num den
    have second := Nat.div_add_mod' larger den
    rw [equal] at second
    have remainder : num % den ≤ larger % den := by omega
    simp only [roundHalfEven, equal]
    split <;> split <;> (try split) <;> (try split) <;> omega

theorem le_roundHalfEven_of_even (num den candidate : Nat) (positive : 0 < den)
    (even : candidate % 2 = 0) (near : 2 * (candidate * den) ≤ 2 * num + den) :
    candidate ≤ roundHalfEven num den := by
  by_contra above
  have below : roundHalfEven num den + 1 ≤ candidate := Nat.lt_of_not_le above
  have scaled := Nat.mul_le_mul_right den below
  rw [Nat.succ_mul] at scaled
  have bound := (roundHalfEven_error num den positive).2
  have whole := Nat.div_add_mod' num den
  rcases roundHalfEven_sides num den with ⟨down, low⟩ | ⟨up, high⟩
  next =>
    rw [down] at scaled bound
    have tie : 2 * (num % den) = den := by omega
    have parity := roundHalfEven_even num den tie
    rw [down] at parity below
    have far : num / den + 2 ≤ candidate := by omega
    have further := Nat.mul_le_mul_right den far
    rw [Nat.add_mul] at further
    omega
  next =>
    rw [up, Nat.succ_mul] at scaled
    have small := Nat.mod_lt num positive
    omega

namespace Magnitude

theorem unit_pos : 0 < unit := by
  unfold unit
  exact Nat.pow_pos Nat.two_pos

theorem two_pow_unit (bits : Nat) : 2 ^ (bits + 1074) = 2 ^ bits * unit := by
  unfold unit
  exact Nat.pow_add 2 bits 1074

theorem unit_split (e : Nat) (le : e ≤ 1074) : unit = 2 ^ (1074 - e) * 2 ^ e := by
  rw [← Nat.pow_add, Nat.sub_add_cancel le, unit]

theorem two_pow_le_unit (e : Nat) (le : e ≤ 1074) : 2 ^ e ≤ unit := by
  rw [unit_split e le]
  exact Nat.le_mul_of_pos_left _ (Nat.two_pow_pos _)

theorem exponentOf_scale (num den scale : Nat) (positive : 0 < scale) :
    exponentOf (num * scale) (den * scale) = exponentOf num den := by
  simp only [exponentOf, Nat.mul_div_mul_right _ _ positive]

theorem ofRatio?_scale (num den scale : Nat) (positive : 0 < scale) :
    ofRatio? (num * scale) (den * scale) = ofRatio? num den := by
  have exponent := exponentOf_scale num den scale positive
  have significand (e : Nat) : roundHalfEven (num * scale) (den * scale * 2 ^ e) =
      roundHalfEven num (den * 2 ^ e) := by
    rw [Nat.mul_right_comm, roundHalfEven_scale _ _ _ positive]
  simp only [ofRatio?, exponent, significand]

theorem ofRatio?_congr (num den other otherDen : Nat) (positive : 0 < den)
    (otherPositive : 0 < otherDen) (same : num * otherDen = other * den) :
    ofRatio? num den = ofRatio? other otherDen := by
  rw [← ofRatio?_scale num den otherDen otherPositive, same, Nat.mul_comm den,
    ofRatio?_scale other otherDen den positive]

theorem scaled_of_ofRatio? (num den : Nat) (m : Magnitude) (rounded : ofRatio? num den = some m) :
    m.scaled = roundHalfEven num (den * 2 ^ exponentOf num den) * 2 ^ exponentOf num den := by
  simp only [ofRatio?] at rounded
  split at rounded
  next below =>
    split at rounded
    next => cases rounded; rfl
    next => cases rounded
  next full =>
    split at rounded
    next =>
      cases rounded
      -- The carry is the same number with another significand.
      have carry : roundHalfEven num (den * 2 ^ exponentOf num den) = 2 ^ 53 := by
        have upper := roundHalfEven_le_succ num (den * 2 ^ exponentOf num den)
        have below := div_lt_of_exponentOf num den
        omega
      rw [carry]
      simp only [scaled, Nat.pow_succ]
      omega
    next => cases rounded

theorem ofRatio?_exists_iff (num den : Nat) : (∃ m, ofRatio? num den = some m) ↔
    exponentOf num den < 2045 ∨ exponentOf num den = 2045 ∧
      roundHalfEven num (den * 2 ^ exponentOf num den) < 2 ^ 53 := by
  simp only [ofRatio?]
  split
  next below =>
    split
    next => exact iff_of_true ⟨_, rfl⟩ (by omega)
    next => exact iff_of_false (by simp) (by omega)
  next =>
    split
    next => exact iff_of_true ⟨_, rfl⟩ (by omega)
    next => exact iff_of_false (by simp) (by omega)

theorem ofRatio?_exists (num den bits : Nat) (range : num / den < 2 ^ bits)
    (finite : bits ≤ 2097) : ∃ m, ofRatio? num den = some m := by
  have log : (num / den).log2 < 2097 := by
    rcases Nat.eq_zero_or_pos (num / den) with zero | positive
    · simp [zero]
    · exact Nat.lt_of_lt_of_le ((Nat.log2_lt (Nat.ne_of_gt positive)).mpr range) finite
  apply (ofRatio?_exists_iff num den).mpr
  simp only [exponentOf]
  omega

theorem ofRatio?_error (num den : Nat) (m : Magnitude) (positive : 0 < den)
    (rounded : ofRatio? num den = some m) :
    2 * (m.scaled * den) ≤ 2 * num + den * 2 ^ exponentOf num den ∧
      2 * num ≤ 2 * (m.scaled * den) + den * 2 ^ exponentOf num den := by
  have grid : 0 < den * 2 ^ exponentOf num den := Nat.mul_pos positive (Nat.two_pow_pos _)
  have error := roundHalfEven_error num (den * 2 ^ exponentOf num den) grid
  rw [scaled_of_ofRatio? num den m rounded]
  rwa [Nat.mul_assoc, Nat.mul_comm (2 ^ exponentOf num den) den]

theorem log2_mono (n larger : Nat) (le : n ≤ larger) : n.log2 ≤ larger.log2 := by
  by_cases zero : n = 0
  next => simp [zero]
  next => exact (Nat.le_log2 (by omega)).mpr (Nat.le_trans (Nat.log2_self_le zero) le)

theorem exponentOf_mono (num den other otherDen : Nat) (le : num / den ≤ other / otherDen) :
    exponentOf num den ≤ exponentOf other otherDen := by
  exact Nat.sub_le_sub_right (log2_mono _ _ le) 52

theorem ofRatio?_mono_num (num larger den : Nat) (m n : Magnitude) (le : num ≤ larger)
    (lower : ofRatio? num den = some m) (upper : ofRatio? larger den = some n) :
    m.scaled ≤ n.scaled := by
  have exponents := exponentOf_mono num den larger den (Nat.div_le_div_right le)
  rw [scaled_of_ofRatio? _ _ _ lower, scaled_of_ofRatio? _ _ _ upper]
  rcases Nat.lt_or_ge (exponentOf num den) (exponentOf larger den) with less | same
  next =>
    -- The lower one reaches at most the power of two at which the grid of the upper one starts.
    have carry : roundHalfEven num (den * 2 ^ exponentOf num den) ≤ 2 ^ 53 := by
      have step := roundHalfEven_le_succ num (den * 2 ^ exponentOf num den)
      have below := div_lt_of_exponentOf num den
      omega
    have normal : 2 ^ 52 ≤ roundHalfEven larger (den * 2 ^ exponentOf larger den) :=
      (canonical_of_exponentOf larger den).resolve_left (by omega)
    calc roundHalfEven num (den * 2 ^ exponentOf num den) * 2 ^ exponentOf num den
      _ ≤ 2 ^ 53 * 2 ^ exponentOf num den := Nat.mul_le_mul_right _ carry
      _ = 2 ^ 52 * 2 ^ (exponentOf num den + 1) := by rw [Nat.pow_succ]; omega
      _ ≤ 2 ^ 52 * 2 ^ exponentOf larger den :=
        Nat.mul_le_mul_left _ (Nat.pow_le_pow_right (by decide) less)
      _ ≤ _ := Nat.mul_le_mul_right _ normal
  next =>
    rw [Nat.le_antisymm same exponents]
    exact Nat.mul_le_mul_right _ (roundHalfEven_mono _ _ _ le)

theorem ofRatio?_exact (num : Nat) (m : Magnitude) (rounded : ofRatio? num 1 = some m)
    (divides : 2 ^ exponentOf num 1 ∣ num) : m.scaled = num := by
  obtain ⟨count, multiple⟩ := divides
  rw [scaled_of_ofRatio? _ _ _ rounded, Nat.one_mul]
  generalize exponentOf num 1 = e at multiple
  rw [multiple, Nat.mul_comm (2 ^ e) count, roundHalfEven_mul_left _ _ (Nat.two_pow_pos _)]

theorem grid_le (num den : Nat) (normal : 2 ^ 52 ≤ num / den) :
    2 ^ 52 * 2 ^ exponentOf num den ≤ num / den := by
  have nonzero : num / den ≠ 0 := by omega
  have log : 52 ≤ (num / den).log2 := (Nat.le_log2 nonzero).mpr normal
  have total : 52 + exponentOf num den = (num / den).log2 := by
    simp only [exponentOf]
    omega
  rw [← Nat.pow_add, total]
  exact Nat.log2_self_le nonzero

def value (m : Magnitude) : ℚ := m.scaled / unit

/-- The magnitude that a rational is rounded to, none when it is out of range. -/
def nearest? (x : ℚ) : Option Magnitude := ofRatio? (x * unit).num.toNat (x * unit).den

theorem unit_rat_pos : (0 : ℚ) < unit := Nat.cast_pos.mpr unit_pos

theorem value_nonneg (m : Magnitude) : 0 ≤ m.value :=
  div_nonneg (Nat.cast_nonneg _) unit_rat_pos.le

theorem value_of_significand (m : Magnitude) (zero : m.significand = 0) : m.value = 0 := by
  rw [value, scaled, zero, Nat.zero_mul, Nat.cast_zero, zero_div]

theorem ofRatio?_nearest (num den : Nat) (positive : 0 < den) :
    ofRatio? num den = nearest? (num / den / unit) := by
  have exact : (num / den / unit * unit : ℚ) = num / den := div_mul_cancel₀ _ unit_rat_pos.ne'
  unfold nearest?
  rw [exact]
  apply ofRatio?_congr _ _ _ _ positive (Rat.den_pos _)
  have nonneg : 0 ≤ ((num : ℚ) / den).num := Rat.num_nonneg.mpr (by positivity)
  have same : (((num : ℚ) / den).num.toNat : ℚ) / ((num : ℚ) / den).den = num / den := by
    conv_rhs => rw [← Rat.num_div_den ((num : ℚ) / den)]
    congr 1
    exact_mod_cast Int.toNat_of_nonneg nonneg
  have denominator : (((num : ℚ) / den).den : ℚ) ≠ 0 := by exact_mod_cast Rat.den_ne_zero _
  have divisor : (den : ℚ) ≠ 0 := by exact_mod_cast positive.ne'
  rw [div_eq_div_iff denominator divisor] at same
  exact_mod_cast same.symm

theorem nearest?_ratio (x : ℚ) (nonneg : 0 ≤ x) :
    ∃ num den : Nat, 0 < den ∧ x = num / den / unit ∧ nearest? x = ofRatio? num den := by
  refine ⟨(x * unit).num.toNat, (x * unit).den, Rat.den_pos _, ?_, rfl⟩
  have scaledNonneg : 0 ≤ (x * unit).num := Rat.num_nonneg.mpr (mul_nonneg nonneg unit_rat_pos.le)
  have numerator : ((x * unit).num.toNat : ℚ) = (x * unit).num := by
    exact_mod_cast Int.toNat_of_nonneg scaledNonneg
  rw [numerator, Rat.num_div_den]
  exact (mul_div_cancel_right₀ x unit_rat_pos.ne').symm

theorem nearest?_error (x : ℚ) (m : Magnitude) (normal : 2 ^ 52 / unit ≤ x)
    (rounded : nearest? x = some m) : |m.value - x| ≤ x / 2 ^ 53 := by
  have nonneg : 0 ≤ x := le_trans (by positivity) normal
  obtain ⟨num, den, positive, ratio, same⟩ := nearest?_ratio x nonneg
  rw [same] at rounded
  have divisor : (0 : ℚ) < den := Nat.cast_pos.mpr positive
  have large : 2 ^ 52 ≤ num / den := by
    rw [Nat.le_div_iff_mul_le positive]
    rw [ratio, div_le_div_iff_of_pos_right unit_rat_pos, le_div_iff₀ divisor] at normal
    exact_mod_cast normal
  have grid := grid_le num den large
  rw [Nat.le_div_iff_mul_le positive] at grid
  obtain ⟨above, below⟩ := ofRatio?_error num den m positive rounded
  have gridRat : (2 ^ 52 * 2 ^ exponentOf num den * den : ℚ) ≤ num := by exact_mod_cast grid
  have aboveRat : (2 * (m.scaled * den) : ℚ) ≤ 2 * num + den * 2 ^ exponentOf num den := by
    exact_mod_cast above
  have belowRat : (2 * num : ℚ) ≤ 2 * (m.scaled * den) + den * 2 ^ exponentOf num den := by
    exact_mod_cast below
  have distance : |(m.scaled * den - num : ℚ)| ≤ num / 2 ^ 53 := by
    rw [abs_le]
    constructor <;> linarith
  have scale : (0 : ℚ) < den * unit := mul_pos divisor unit_rat_pos
  have exact : x * (den * unit) = num := by
    rw [ratio, div_div, div_mul_cancel₀ _ scale.ne']
  have factor : m.value - x = (m.scaled * den - num) / (den * unit) := by
    rw [eq_div_iff scale.ne', sub_mul, exact, value, mul_comm (den : ℚ), ← mul_assoc,
      div_mul_cancel₀ _ unit_rat_pos.ne']
  rw [factor, abs_div, abs_of_pos scale, div_le_iff₀ scale, div_mul_eq_mul_div, exact]
  exact distance

theorem nearest?_common (x y : ℚ) (xNonneg : 0 ≤ x) (yNonneg : 0 ≤ y) :
    ∃ a c den : Nat, 0 < den ∧ x = a / den / unit ∧ y = c / den / unit ∧
      nearest? x = ofRatio? a den ∧ nearest? y = ofRatio? c den := by
  obtain ⟨a, b, bPositive, xRatio, xSame⟩ := nearest?_ratio x xNonneg
  obtain ⟨c, d, dPositive, yRatio, ySame⟩ := nearest?_ratio y yNonneg
  have bNonzero : (b : ℚ) ≠ 0 := Nat.cast_ne_zero.mpr bPositive.ne'
  have dNonzero : (d : ℚ) ≠ 0 := Nat.cast_ne_zero.mpr dPositive.ne'
  refine ⟨a * d, c * b, b * d, Nat.mul_pos bPositive dPositive, ?_, ?_, ?_, ?_⟩
  · rw [xRatio, Nat.cast_mul, Nat.cast_mul, mul_div_mul_right _ _ dNonzero]
  · rw [yRatio, Nat.cast_mul, Nat.cast_mul, mul_comm (b : ℚ), mul_div_mul_right _ _ bNonzero]
  · rw [xSame, ofRatio?_scale _ _ _ dPositive]
  · rw [ySame, Nat.mul_comm b d, ofRatio?_scale _ _ _ bPositive]

theorem normal_of_one_le (x : ℚ) (le : 1 ≤ x) : 2 ^ 52 / unit ≤ x := by
  have enough : 2 ^ 52 ≤ unit := two_pow_le_unit 52 (by decide)
  refine le_trans ((div_le_one unit_rat_pos).mpr ?_) le
  exact_mod_cast enough

theorem nearest?_mono (x y : ℚ) (m n : Magnitude) (nonneg : 0 ≤ x) (le : x ≤ y)
    (lower : nearest? x = some m) (upper : nearest? y = some n) : m.value ≤ n.value := by
  obtain ⟨a, c, den, positive, xRatio, yRatio, xSame, ySame⟩ :=
    nearest?_common x y nonneg (nonneg.trans le)
  rw [xSame] at lower
  rw [ySame] at upper
  rw [xRatio, yRatio, div_le_div_iff_of_pos_right unit_rat_pos,
    div_le_div_iff_of_pos_right (Nat.cast_pos.mpr positive)] at le
  have scaledLe := ofRatio?_mono_num a c den m n (Nat.cast_le.mp le) lower upper
  exact div_le_div_of_nonneg_right (Nat.cast_le.mpr scaledLe) unit_rat_pos.le

theorem nearest?_exists (x : ℚ) (nonneg : 0 ≤ x) (bits : Nat) (range : x < 2 ^ bits)
    (finite : bits ≤ 1023) : ∃ m, nearest? x = some m := by
  obtain ⟨num, den, positive, ratio, same⟩ := nearest?_ratio x nonneg
  rw [same]
  apply ofRatio?_exists num den (bits + 1074) _ (by omega)
  rw [Nat.div_lt_iff_lt_mul positive, two_pow_unit]
  rw [ratio, div_lt_iff₀ unit_rat_pos, div_lt_iff₀ (Nat.cast_pos.mpr positive)] at range
  exact_mod_cast range

theorem log2_le_of_lt (n bits : Nat) (less : n < 2 ^ (bits + 1)) : n.log2 ≤ bits := by
  by_cases zero : n = 0
  next => simp [zero]
  next => exact Nat.le_of_lt_succ ((Nat.log2_lt zero).mpr less)

theorem exponentOf_le_of_lt (num den bits : Nat) (small : bits ≤ 53)
    (less : num / den < 2 ^ bits * unit) : exponentOf num den ≤ 1021 + bits := by
  have log : (num / den).log2 ≤ bits + 1073 := by
    apply log2_le_of_lt
    rwa [Nat.add_assoc, two_pow_unit]
  simp only [exponentOf]
  omega

theorem ofRatio?_multiple (count e : Nat) (few : count < 2 ^ 53) (range : e ≤ 2044) :
    ∃ m, ofRatio? (count * 2 ^ e) 1 = some m ∧ m.scaled = count * 2 ^ e := by
  have below : count * 2 ^ e / 1 < 2 ^ (53 + e) := by
    rw [Nat.div_one, Nat.pow_add]
    exact Nat.mul_lt_mul_of_pos_right few (Nat.two_pow_pos e)
  obtain ⟨m, rounded⟩ := ofRatio?_exists _ 1 (53 + e) below (by omega)
  have log := log2_le_of_lt _ (52 + e) (by rwa [Nat.add_right_comm])
  have grid : exponentOf (count * 2 ^ e) 1 ≤ e := by
    simp only [exponentOf]
    omega
  refine ⟨m, rounded, ofRatio?_exact _ _ rounded ?_⟩
  exact Nat.dvd_mul_left_of_dvd (Nat.pow_dvd_pow 2 grid) count

theorem nearest?_natCast (n : Nat) (small : n < 2 ^ 53) :
    ∃ m, nearest? n = some m ∧ m.value = n := by
  have ratio : (n : ℚ) = (n * unit : Nat) / (1 : Nat) / unit := by
    rw [Nat.cast_one, div_one, Nat.cast_mul, mul_div_cancel_right₀ _ unit_rat_pos.ne']
  obtain ⟨m, rounded, exact⟩ := ofRatio?_multiple n 1074 small (by decide)
  rw [← unit] at rounded exact
  refine ⟨m, ?_, ?_⟩
  · rw [ratio, ← ofRatio?_nearest _ _ Nat.one_pos, rounded]
  · rw [value, exact, Nat.cast_mul, mul_div_cancel_right₀ _ unit_rat_pos.ne']

theorem nearest?_error_of_zero_or_one_le (x : ℚ) (m : Magnitude) (rounded : nearest? x = some m)
    (zeroOrLarge : x = 0 ∨ 1 ≤ x) : |m.value - x| ≤ x / 2 ^ 53 := by
  rcases zeroOrLarge with rfl | large
  · obtain ⟨zero, exact, value⟩ := nearest?_natCast 0 (by decide)
    rw [Nat.cast_zero, rounded] at exact
    cases exact
    simp [value]
  · exact nearest?_error _ _ (normal_of_one_le _ large) rounded

theorem natCast_error (n : Nat) (m : Magnitude) (rounded : nearest? n = some m) :
    |m.value - n| ≤ n / 2 ^ 53 := by
  apply nearest?_error_of_zero_or_one_le _ _ rounded
  rcases Nat.eq_zero_or_pos n with zero | positive
  · exact .inl (by rw [zero, Nat.cast_zero])
  · exact .inr (by exact_mod_cast positive)

theorem ofRatio?_step (num larger den whole : Nat) (m n : Magnitude) (positive : 0 < den)
    (apart : num + unit * den ≤ larger) (small : larger / den < 2 ^ 52 * unit)
    (reached : whole * unit ≤ m.scaled)
    (lower : ofRatio? num den = some m) (upper : ofRatio? larger den = some n) :
    (whole + 1) * unit ≤ n.scaled := by
  have grids : exponentOf num den ≤ exponentOf larger den :=
    exponentOf_mono _ _ _ _ (Nat.div_le_div_right (Nat.le_of_add_right_le apart))
  have fine : exponentOf larger den ≤ 1073 := exponentOf_le_of_lt _ _ 52 (by decide) small
  have error := (ofRatio?_error num den m positive lower).1
  rw [scaled_of_ofRatio? _ _ _ upper]
  generalize exponentOf larger den = e at grids fine
  have half : den * 2 ^ exponentOf num den ≤ den * 2 ^ e :=
    Nat.mul_le_mul_left _ (Nat.pow_le_pow_right (by decide) grids)
  have reachedDen : whole * unit * den ≤ m.scaled * den := Nat.mul_le_mul_right den reached
  have units := unit_split e (by omega)
  -- The half unit below the next integer is no smaller, and a tie there goes to the integer.
  have even : (whole + 1) * 2 ^ (1074 - e) % 2 = 0 := by
    rw [show 1074 - e = 1073 - e + 1 by omega, Nat.pow_succ, ← Nat.mul_assoc]
    exact Nat.mul_mod_left _ _
  have near : 2 * ((whole + 1) * 2 ^ (1074 - e) * (den * 2 ^ e)) ≤ 2 * larger + den * 2 ^ e := by
    calc 2 * ((whole + 1) * 2 ^ (1074 - e) * (den * 2 ^ e))
      _ = 2 * (whole * unit * den) + 2 * (unit * den) := by
        rw [units]
        ring
      _ ≤ 2 * larger + den * 2 ^ e := by omega
  have grid : 0 < den * 2 ^ e := Nat.mul_pos positive (Nat.two_pow_pos e)
  have kept := le_roundHalfEven_of_even _ _ _ grid even near
  calc (whole + 1) * unit = (whole + 1) * 2 ^ (1074 - e) * 2 ^ e := by rw [units, Nat.mul_assoc]
    _ ≤ roundHalfEven larger (den * 2 ^ e) * 2 ^ e := Nat.mul_le_mul_right _ kept

theorem nearest?_step (x y : ℚ) (m n : Magnitude) (whole : Nat) (nonneg : 0 ≤ x)
    (step : x + 1 ≤ y) (small : y < 2 ^ 52) (reached : whole ≤ m.value)
    (lower : nearest? x = some m) (upper : nearest? y = some n) : whole + 1 ≤ n.value := by
  obtain ⟨a, c, den, positive, xRatio, yRatio, xSame, ySame⟩ :=
    nearest?_common x y nonneg (by linarith)
  rw [xSame] at lower
  rw [ySame] at upper
  have divisor : (0 : ℚ) < den := Nat.cast_pos.mpr positive
  have apart : a + unit * den ≤ c := by
    have one : (1 : ℚ) = unit / unit := (div_self unit_rat_pos.ne').symm
    rw [xRatio, yRatio, one, ← add_div, div_le_div_iff_of_pos_right unit_rat_pos,
      div_add' _ _ _ divisor.ne', div_le_div_iff_of_pos_right divisor] at step
    exact_mod_cast step
  have low : c / den < 2 ^ 52 * unit := by
    rw [Nat.div_lt_iff_lt_mul positive]
    rw [yRatio, div_lt_iff₀ unit_rat_pos, div_lt_iff₀ divisor] at small
    exact_mod_cast small
  rw [value, le_div_iff₀ unit_rat_pos] at reached
  have kept := ofRatio?_step a c den whole m n positive apart low (by exact_mod_cast reached)
    lower upper
  rw [value, le_div_iff₀ unit_rat_pos]
  exact_mod_cast kept

end Magnitude

namespace Binary64

def nearest (x : ℚ) : Binary64 :=
  -- Only for what is not negative.
  match Magnitude.nearest? x with
  | some m => .finite false m
  | none => .infinity false

theorem nearest_of_nearest? (x : ℚ) (m : Magnitude) (rounded : Magnitude.nearest? x = some m) :
    nearest x = .finite false m := by
  unfold nearest
  rw [rounded]

theorem ofScaledRatio_nearest (num den : Nat) (positive : 0 < den) :
    ofScaledRatio false num den = nearest (num / den / Magnitude.unit) := by
  have same := Magnitude.ofRatio?_nearest num den positive
  unfold ofScaledRatio nearest
  cases rounded : Magnitude.ofRatio? num den with
  | none => simp only [← same, rounded]
  | some m => simp only [← same, rounded]

theorem ofNat_nearest (n : Nat) : ofNat n = nearest n := by
  have exact : (n : ℚ) = (n * Magnitude.unit : Nat) / (1 : Nat) / Magnitude.unit := by
    rw [Nat.cast_one, div_one, Nat.cast_mul, mul_div_cancel_right₀ _ Magnitude.unit_rat_pos.ne']
  rw [exact, ← ofScaledRatio_nearest _ _ Nat.one_pos]
  rfl

theorem mul_nearest (a b : Magnitude) :
    mul (.finite false a) (.finite false b) = nearest (a.value * b.value) := by
  change ofScaledRatio false (a.scaled * b.scaled) Magnitude.unit = _
  rw [ofScaledRatio_nearest _ _ Magnitude.unit_pos, Magnitude.value, Magnitude.value,
    div_mul_div_comm, div_div, Nat.cast_mul]

theorem div_nearest (a b : Magnitude) (nonzero : 0 < b.value) :
    div (.finite false a) (.finite false b) = nearest (a.value / b.value) := by
  rw [Magnitude.value, div_pos_iff_of_pos_right Magnitude.unit_rat_pos, Nat.cast_pos] at nonzero
  have significand : b.significand ≠ 0 := by
    intro zero
    simp [Magnitude.scaled, zero] at nonzero
  have exact : (a.scaled * Magnitude.unit : Nat) / (b.scaled : ℚ) / Magnitude.unit =
      a.value / b.value := by
    have cancel := Magnitude.unit_rat_pos.ne'
    rw [Nat.cast_mul, div_right_comm, mul_div_cancel_right₀ _ cancel]
    exact (div_div_div_cancel_right₀ cancel _ _).symm
  rw [← exact, ← ofScaledRatio_nearest _ _ nonzero]
  exact if_neg significand

theorem div_ofNat (n k : Nat) (a b : Magnitude) (numerator : Magnitude.nearest? n = some a)
    (denominator : Magnitude.nearest? k = some b) (nonzero : 0 < b.value) :
    (ofNat n).div (ofNat k) = nearest (a.value / b.value) := by
  rw [ofNat_nearest, ofNat_nearest, nearest_of_nearest? _ a numerator,
    nearest_of_nearest? _ b denominator, div_nearest a b nonzero]

theorem truncate_finite (m : Magnitude) :
    truncate (.finite false m) = min ⌊m.value⌋₊ wordMax := by
  rw [Magnitude.value, Nat.floor_div_eq_div]
  rfl

end Binary64

end PlotTables
