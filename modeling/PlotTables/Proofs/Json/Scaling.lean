import PlotTables.Json.Number
import PlotTables.Proofs.Binary64.Rounded
import PlotTables.Proofs.Decimal.Shortest

set_option autoImplicit false

namespace PlotTables.Json.Number

open Magnitude Binary64

theorem ofNat_of_nearest? (n : Nat) (a : Magnitude) (rounded : nearest? n = some a) :
    ofNat n = .finite false a := by
  rw [ofNat_nearest, nearest_of_nearest? _ a rounded]

theorem nearest_of_none (x : ℚ) (rounded : nearest? x = none) : nearest x = .infinity false := by
  unfold nearest
  rw [rounded]

theorem powerOfTen_of_nearest? (n : Nat) (p : Magnitude)
    (rounded : nearest? (10 ^ n : Nat) = some p) : powerOfTen n = .finite false p :=
  ofNat_of_nearest? (10 ^ n) p rounded

theorem nearest?_natCast_ofRatio? (n : Nat) : nearest? n = ofRatio? (n * unit) 1 := by
  rw [ofRatio?_nearest _ _ Nat.one_pos, Nat.cast_mul, Nat.cast_one, div_one,
    mul_div_cancel_right₀ _ unit_rat_pos.ne']

theorem one_le_of_nearest? (x : ℚ) (p : Magnitude) (le : 1 ≤ x) (rounded : nearest? x = some p) :
    1 ≤ p.value := by
  obtain ⟨one, oneRounded, exact⟩ := nearest?_natCast 1 (by decide)
  rw [Nat.cast_one] at oneRounded exact
  rw [← exact]
  exact nearest?_mono 1 x one p zero_le_one le oneRounded rounded

theorem one_le_power (power : Nat) (p : Magnitude) (ten : nearest? (10 ^ power : Nat) = some p) :
    1 ≤ p.value := by
  apply one_le_of_nearest? _ p _ ten
  exact_mod_cast Nat.one_le_pow power 10 (by decide)

theorem nearest?_quotient (a p : Magnitude) (one : 1 ≤ p.value) :
    ∃ n, nearest? (a.value / p.value) = some n :=
  nearest?_exists_of_le _ _ a (div_nonneg a.value_nonneg p.value_nonneg)
    (div_le_self a.value_nonneg one) (nearest?_value a)

/-- What is rounded last: the rounded digits, scaled by the rounded power of ten. -/
def rescaled (a p : Magnitude) : Int → ℚ
  | .ofNat _ => a.value * p.value
  | .negSucc _ => a.value / p.value

theorem rescaled_natCast (a p : Magnitude) (power : Nat) :
    rescaled a p power = a.value * p.value := rfl

theorem scale?_eq (coefficient : Nat) (exponent : Int) (a p : Magnitude)
    (near : exponent.natAbs ≤ largestPower) (digits : nearest? coefficient = some a)
    (ten : nearest? (10 ^ exponent.natAbs : Nat) = some p) :
    scale? coefficient exponent = (nearest? (rescaled a p exponent)).map (.finite false) := by
  have whole := ofNat_of_nearest? coefficient a digits
  have table := powerOfTen_of_nearest? exponent.natAbs p ten
  have one := one_le_power exponent.natAbs p ten
  cases exponent with
  | ofNat power =>
    change powerOfTen power = _ at table
    change power ≤ largestPower at near
    have product := mul_nearest a p
    rw [← whole, ← table] at product
    cases rounded : nearest? (a.value * p.value) with
    | some n =>
      rw [nearest_of_nearest? _ n rounded] at product
      simp only [scale?, near, if_true, product, rescaled, rounded, Option.map_some]
    | none =>
      rw [nearest_of_none _ rounded] at product
      simp only [scale?, near, if_true, product, rescaled, rounded, Option.map_none]
  | negSucc less =>
    change powerOfTen (less + 1) = _ at table
    change less + 1 ≤ largestPower at near
    have quotient := div_nearest a p (by linarith)
    rw [← whole, ← table] at quotient
    have steps (x : Binary64) (count : Nat) :
        scaleDown x count (less + 1) = x.div (powerOfTen (less + 1)) := by
      cases count with
      | zero => rfl
      | succ fewer => simp only [scaleDown, near, if_true]
    obtain ⟨n, rounded⟩ := nearest?_quotient a p one
    rw [nearest_of_nearest? _ n rounded] at quotient
    simp only [scale?, steps, quotient, rescaled, rounded, Option.map_some]

section Finite

theorem div_powerOfTen (a : Magnitude) (power : Nat) :
    ∃ n, (Binary64.finite false a).div (powerOfTen power) = .finite false n := by
  cases ten : nearest? (10 ^ power : Nat) with
  | some p =>
    have one := one_le_power power p ten
    obtain ⟨n, rounded⟩ := nearest?_quotient a p one
    refine ⟨n, ?_⟩
    rw [powerOfTen_of_nearest? power p ten, div_nearest a p (by linarith),
      nearest_of_nearest? _ n rounded]
  | none =>
    -- A power of ten past the doubles is infinite, and what it divides is zero.
    have infinite : powerOfTen power = .infinity false := by
      rw [powerOfTen, ofNat_nearest, nearest_of_none _ ten]
    exact ⟨.zero, by rw [infinite]; rfl⟩

theorem scaleDown_finite (a : Magnitude) (steps power : Nat) :
    ∃ r, scaleDown (.finite false a) steps power = .finite false r := by
  induction steps generalizing a power with
  | zero => exact div_powerOfTen a power
  | succ fewer ih =>
    simp only [scaleDown]
    split
    next => exact div_powerOfTen a power
    next =>
      split
      next => exact ⟨a, rfl⟩
      next =>
        obtain ⟨r, divided⟩ := div_powerOfTen a largestPower
        rw [divided]
        exact ih r (power - largestPower)

theorem nearest?_word (coefficient : Nat) (word : coefficient < 2 ^ 64) :
    ∃ a, nearest? coefficient = some a :=
  nearest?_exists coefficient (Nat.cast_nonneg _) 64 (by exact_mod_cast word) (by decide)

theorem scale?_negative (coefficient less : Nat) (word : coefficient < 2 ^ 64) :
    ∃ r, scale? coefficient (.negSucc less) = some (.finite false r) := by
  obtain ⟨a, digits⟩ := nearest?_word coefficient word
  obtain ⟨r, scaled⟩ := scaleDown_finite a ((less + 1) / largestPower) (less + 1)
  exact ⟨r, by simp only [scale?, ofNat_of_nearest? coefficient a digits, scaled]⟩

end Finite

section Overflow

def largest : Magnitude := ⟨2 ^ 53 - 1, 2045, by decide, by decide, .inr (by decide)⟩

/-- The largest digits that can stand before a power of ten in the shortest decimal of a double. -/
def mostDigits (power : Nat) : Nat :=
  -- One more would still be read as the largest double, but it is not the nearest decimal.
  if power = 292 then 17976931348623157 else min (10 ^ 17 - 1) ((ceiling - 1) / 10 ^ power)

theorem shortest_largest : largest.shortest .even = ⟨17976931348623157, 292⟩ := by
  decide +kernel

theorem nearest?_past_largest : nearest? (17976931348623158 * 10 ^ 292 : Nat) = some largest := by
  rw [nearest?_natCast_ofRatio?]
  decide +kernel

theorem scale?_mostDigits : ∀ power ≤ largestPower, 291 ≤ power →
    (scale? (mostDigits power) power).isSome = true := by
  decide +kernel

theorem nearest?_natCast_iff (n : Nat) : (∃ m, nearest? n = some m) ↔ n < ceiling := by
  rw [nearest?_exists_iff n (Nat.cast_nonneg n), Nat.cast_lt]

theorem lt_ceiling (n : Nat) (m : Magnitude) (rounded : nearest? n = some m) : n < ceiling :=
  (nearest?_natCast_iff n).mp ⟨m, rounded⟩

theorem ceiling_le : ceiling ≤ 10 ^ largestPower * 10 := by
  decide +kernel

theorem nearest?_power (power : Nat) (near : power ≤ largestPower) :
    ∃ p, nearest? (10 ^ power : Nat) = some p := by
  have last : 10 ^ largestPower < ceiling := by decide +kernel
  apply (nearest?_natCast_iff _).mpr
  exact Nat.lt_of_le_of_lt (Nat.pow_le_pow_right (by decide) near) last

section Shortest

variable (m : Magnitude) (coefficient power : Nat)
  (shape : m.shortest .even = ⟨coefficient, power⟩)

include shape

theorem shortest_reads : nearest? (coefficient * 10 ^ power : Nat) = some m := by
  have reads := m.shortest_value .even
  rw [shape, Decimal.value, zpow_natCast] at reads
  rwa [Nat.cast_mul, Nat.cast_pow, Nat.cast_ofNat]

theorem shortest_few : coefficient < 10 ^ 17 := by
  have few := m.shortest_coefficient_lt .even
  rwa [shape] at few

theorem shortest_power_le (positive : 0 < coefficient) : power ≤ largestPower := by
  have below := lt_ceiling _ m (shortest_reads m coefficient power shape)
  by_contra beyond
  have above : 10 ^ largestPower * 10 ≤ coefficient * 10 ^ power :=
    calc 10 ^ largestPower * 10 = 10 ^ (largestPower + 1) := by rw [Nat.pow_succ]
      _ ≤ 10 ^ power := Nat.pow_le_pow_right (by decide) (Nat.lt_of_not_le beyond)
      _ ≤ coefficient * 10 ^ power := Nat.le_mul_of_pos_left _ positive
  exact absurd (Nat.lt_of_lt_of_le below ceiling_le) (Nat.not_lt.mpr above)

theorem shortest_coefficient_le : coefficient ≤ mostDigits power := by
  have reads := shortest_reads m coefficient power shape
  have below := lt_ceiling _ m reads
  have few := shortest_few m coefficient power shape
  unfold mostDigits
  split
  next last =>
    subst last
    have ceilingLe : ceiling ≤ 17976931348623159 * 10 ^ 292 := by decide +kernel
    have most : coefficient < 17976931348623159 :=
      Nat.lt_of_mul_lt_mul_right (Nat.lt_of_lt_of_le below ceilingLe)
    rcases Nat.lt_or_ge coefficient 17976931348623158 with less | past
    next => omega
    next =>
      obtain rfl : coefficient = 17976931348623158 := by omega
      rw [nearest?_past_largest] at reads
      cases reads
      rw [shortest_largest] at shape
      cases shape
  next =>
    have fits : coefficient ≤ (ceiling - 1) / 10 ^ power := by
      rw [Nat.le_div_iff_mul_le (Nat.pow_pos (by decide))]
      omega
    exact le_min (by omega) fits

theorem scale?_shortest (positive : 0 < coefficient) :
    ∃ n, scale? coefficient power = some (.finite false n) := by
  have near := shortest_power_le m coefficient power shape positive
  have few := shortest_few m coefficient power shape
  obtain ⟨a, digits⟩ := nearest?_word coefficient (by omega)
  obtain ⟨p, ten⟩ := nearest?_power power near
  -- Below the last powers the digits may all be nines.
  obtain ⟨last, powerLe, lastLe, enough, digitsLe⟩ : ∃ last, power ≤ last ∧ last ≤ largestPower ∧
      291 ≤ last ∧ coefficient ≤ mostDigits last := by
    rcases Nat.lt_or_ge power 291 with low | high
    next =>
      have nines : mostDigits 291 = 10 ^ 17 - 1 := by decide +kernel
      exact ⟨291, by omega, by decide, Nat.le_refl _, by rw [nines]; omega⟩
    next => exact ⟨power, Nat.le_refl _, near, high, shortest_coefficient_le m _ _ shape⟩
  have word : mostDigits last < 2 ^ 64 := by
    unfold mostDigits
    split
    next => decide
    next => exact lt_of_le_of_lt (min_le_left _ _) (by decide)
  obtain ⟨b, mostRounded⟩ := nearest?_word (mostDigits last) word
  obtain ⟨q, lastRounded⟩ := nearest?_power last lastLe
  have finite := scale?_mostDigits last lastLe enough
  rw [scale?_eq (mostDigits last) last b q lastLe mostRounded lastRounded, Option.isSome_map,
    rescaled_natCast] at finite
  obtain ⟨top, rounded⟩ := Option.isSome_iff_exists.mp finite
  have product : a.value * p.value ≤ b.value * q.value := by
    apply mul_le_mul _ _ p.value_nonneg b.value_nonneg
    · exact nearest?_mono _ _ a b (Nat.cast_nonneg _) (Nat.cast_le.mpr digitsLe) digits mostRounded
    · apply nearest?_mono _ _ p q (Nat.cast_nonneg _) _ ten lastRounded
      exact Nat.cast_le.mpr (Nat.pow_le_pow_right (by decide) powerLe)
  obtain ⟨n, scaled⟩ := nearest?_exists_of_le _ _ top (mul_nonneg a.value_nonneg p.value_nonneg)
    product rounded
  refine ⟨n, ?_⟩
  rw [scale?_eq coefficient power a p near digits ten, rescaled_natCast, scaled]
  rfl

end Shortest

end Overflow

section Exact

theorem powers_exact : ∀ power ≤ 22,
    (ofRatio? (10 ^ power * unit) 1).map scaled = some (10 ^ power * unit) := by
  decide +kernel

theorem nearest?_power_exact (power : Nat) (near : power ≤ 22) :
    ∃ p, nearest? (10 ^ power : Nat) = some p ∧ p.value = (10 ^ power : Nat) := by
  obtain ⟨p, rounded, exact⟩ := Option.map_eq_some_iff.mp (powers_exact power near)
  refine ⟨p, by rw [nearest?_natCast_ofRatio?, rounded], ?_⟩
  rw [value, exact, Nat.cast_mul, mul_div_cancel_right₀ _ unit_rat_pos.ne']

theorem rescaled_exact (d : Decimal) (a p : Magnitude) (digits : a.value = d.coefficient)
    (ten : p.value = (10 ^ d.exponent.natAbs : Nat)) : rescaled a p d.exponent = d.value := by
  cases sign : d.exponent with
  | ofNat power =>
    rw [sign, Int.ofNat_eq_natCast, Int.natAbs_natCast] at ten
    rw [d.value_ofNat power sign, ← digits, ← ten, rescaled]
  | negSucc less =>
    rw [sign, Int.natAbs_negSucc] at ten
    rw [d.value_negSucc less sign, ← digits, ← ten, rescaled]

theorem scale?_exact (d : Decimal) (m : Magnitude) (reads : nearest? d.value = some m)
    (few : d.coefficient < 2 ^ 53) (near : d.exponent.natAbs ≤ 22) :
    scale? d.coefficient d.exponent = some (.finite false m) := by
  obtain ⟨a, digits, whole⟩ := nearest?_natCast d.coefficient few
  obtain ⟨p, ten, exact⟩ := nearest?_power_exact d.exponent.natAbs near
  rw [scale?_eq _ _ a p (near.trans (by decide)) digits ten, rescaled_exact d a p whole exact, reads]
  rfl

end Exact

section Error

theorem close_of_close (exact found n m : ℚ) (positive : 0 < exact)
    (low : exact * (1 - 3 / 2 ^ 53) ≤ found) (high : found ≤ exact * (1 + 3 / 2 ^ 53))
    (rounded : |n - found| ≤ found / 2 ^ 53) (written : |m - exact| ≤ exact / 2 ^ 53) :
    |n - m| ≤ m / 2 ^ 50 := by
  rw [abs_le] at rounded written ⊢
  constructor <;> linarith

theorem product_close (c t a p : ℚ) (cPositive : 0 < c) (tPositive : 0 < t)
    (digits : |a - c| ≤ c / 2 ^ 53) (ten : |p - t| ≤ t / 2 ^ 53) :
    c * t * (1 - 3 / 2 ^ 53) ≤ a * p ∧ a * p ≤ c * t * (1 + 3 / 2 ^ 53) := by
  rw [abs_le] at digits ten
  have whole : 0 < c * t := mul_pos cPositive tPositive
  have low : c * (1 - 1 / 2 ^ 53) * (t * (1 - 1 / 2 ^ 53)) ≤ a * p :=
    mul_le_mul (by linarith) (by linarith) (by linarith) (by linarith)
  have high : a * p ≤ c * (1 + 1 / 2 ^ 53) * (t * (1 + 1 / 2 ^ 53)) :=
    mul_le_mul (by linarith) (by linarith) (by linarith) (by linarith)
  have lowShape : c * (1 - 1 / 2 ^ 53) * (t * (1 - 1 / 2 ^ 53)) =
      c * t * ((1 - 1 / 2 ^ 53) * (1 - 1 / 2 ^ 53)) := by ring
  have highShape : c * (1 + 1 / 2 ^ 53) * (t * (1 + 1 / 2 ^ 53)) =
      c * t * ((1 + 1 / 2 ^ 53) * (1 + 1 / 2 ^ 53)) := by ring
  rw [lowShape] at low
  rw [highShape] at high
  constructor
  · linarith
  · linarith

theorem quotient_close (c t a p : ℚ) (cPositive : 0 < c) (tPositive : 0 < t)
    (digits : |a - c| ≤ c / 2 ^ 53) (ten : |p - t| ≤ t / 2 ^ 53) :
    c / t * (1 - 3 / 2 ^ 53) ≤ a / p ∧ a / p ≤ c / t * (1 + 3 / 2 ^ 53) := by
  rw [abs_le] at digits ten
  have pPositive : 0 < p := by linarith
  have whole : c / t * t = c := div_mul_cancel₀ c tPositive.ne'
  have ratio : 0 < c / t := div_pos cPositive tPositive
  rw [le_div_iff₀ pPositive, div_le_iff₀ pPositive]
  constructor
  next =>
    calc c / t * (1 - 3 / 2 ^ 53) * p ≤ c / t * (1 - 3 / 2 ^ 53) * (t * (1 + 1 / 2 ^ 53)) :=
          mul_le_mul_of_nonneg_left (by linarith) (mul_nonneg ratio.le (by norm_num))
      _ = c / t * t * ((1 - 3 / 2 ^ 53) * (1 + 1 / 2 ^ 53)) := by ring
      _ ≤ a := by
        rw [whole]
        linarith
  next =>
    calc a ≤ c / t * t * ((1 + 3 / 2 ^ 53) * (1 - 1 / 2 ^ 53)) := by
          rw [whole]
          linarith
      _ = c / t * (1 + 3 / 2 ^ 53) * (t * (1 - 1 / 2 ^ 53)) := by ring
      _ ≤ c / t * (1 + 3 / 2 ^ 53) * p :=
        mul_le_mul_of_nonneg_left (by linarith) (mul_nonneg ratio.le (by norm_num))

theorem rescaled_close (d : Decimal) (a p : Magnitude) (positive : 0 < d.coefficient)
    (digits : nearest? d.coefficient = some a)
    (ten : nearest? (10 ^ d.exponent.natAbs : Nat) = some p) :
    d.value * (1 - 3 / 2 ^ 53) ≤ rescaled a p d.exponent ∧
      rescaled a p d.exponent ≤ d.value * (1 + 3 / 2 ^ 53) := by
  have whole := natCast_error d.coefficient a digits
  have table := natCast_error (10 ^ d.exponent.natAbs) p ten
  have wholePositive : (0 : ℚ) < d.coefficient := Nat.cast_pos.mpr positive
  have tablePositive : (0 : ℚ) < (10 ^ d.exponent.natAbs : Nat) :=
    Nat.cast_pos.mpr (Nat.pow_pos (by decide))
  cases sign : d.exponent with
  | ofNat power =>
    rw [sign] at table tablePositive
    rw [d.value_ofNat power sign]
    exact product_close _ _ _ _ wholePositive tablePositive whole table
  | negSucc less =>
    rw [sign] at table tablePositive
    rw [d.value_negSucc less sign]
    exact quotient_close _ _ _ _ wholePositive tablePositive whole table

theorem near_of_large (d : Decimal) (few : d.coefficient < 10 ^ 17)
    (range : d.exponent ≤ largestPower) (large : 1 / 2 ^ 65 ≤ d.value) :
    d.exponent.natAbs ≤ largestPower := by
  cases sign : d.exponent with
  | ofNat power =>
    rw [sign] at range
    exact Int.ofNat_le.mp range
  | negSucc less =>
    have tablePositive : (0 : ℚ) < (10 ^ (less + 1) : Nat) :=
      Nat.cast_pos.mpr (Nat.pow_pos (by decide))
    rw [d.value_negSucc less sign, le_div_iff₀ tablePositive] at large
    have fewRat : (d.coefficient : ℚ) ≤ 10 ^ 17 := by exact_mod_cast few.le
    have small : ((10 ^ (less + 1) : Nat) : ℚ) ≤ 10 ^ 37 := by linarith
    have less : 10 ^ (less + 1) ≤ 10 ^ 37 := by exact_mod_cast small
    exact ((Nat.pow_le_pow_iff_right (by decide)).mp less).trans (by decide)

theorem scale?_error (d : Decimal) (m n : Magnitude) (reads : nearest? d.value = some m)
    (few : d.coefficient < 10 ^ 17) (range : d.exponent ≤ largestPower)
    (large : 1 / 2 ^ 64 ≤ m.value)
    (scaled : scale? d.coefficient d.exponent = some (.finite false n)) :
    |n.value - m.value| ≤ m.value / 2 ^ 50 := by
  have normal := normal_of_rounded d.value m large reads d.value_nonneg
  have written := nearest?_error d.value m normal reads
  have valueLarge : 1 / 2 ^ 65 ≤ d.value := by
    have upper := (abs_le.mp written).2
    linarith
  have positive : 0 < d.coefficient := by
    apply Nat.pos_of_ne_zero
    intro zero
    rw [Decimal.value, zero, Nat.cast_zero, zero_mul] at valueLarge
    norm_num at valueLarge
  have near := near_of_large d few range valueLarge
  obtain ⟨a, digits⟩ := nearest?_word d.coefficient (by omega)
  obtain ⟨p, ten⟩ := nearest?_power d.exponent.natAbs near
  rw [scale?_eq _ _ a p near digits ten] at scaled
  obtain ⟨found, rounded, same⟩ := Option.map_eq_some_iff.mp scaled
  cases same
  obtain ⟨low, high⟩ := rescaled_close d a p positive digits ten
  have last := nearest?_error _ n (normal_of_large _ (by linarith)) rounded
  exact close_of_close d.value _ _ _ (by linarith) low high last written

end Error

end PlotTables.Json.Number
