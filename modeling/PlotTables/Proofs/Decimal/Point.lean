import PlotTables.Proofs.Binary64.Shares
import PlotTables.Proofs.Decimal.Fewest

set_option autoImplicit false

namespace PlotTables

theorem point_not_mem (digits : List Char) (all : ∀ c ∈ digits, c.isDigit = true) :
    '.' ∉ digits := by
  intro member
  exact absurd (all '.' member) (by decide)

namespace Decimal

variable (d : Decimal)

theorem positional_point : '.' ∈ d.positional := by simp [positional, pointed]

theorem scientific_point (plus : List Char) (bare : '.' ∉ plus) :
    '.' ∈ d.scientific plus ↔ 1 < d.digits.length := by
  obtain ⟨first, others, shape⟩ :=
    List.exists_cons_of_ne_nil (Nat.toDigits_ne_nil (b := 10) (n := d.coefficient))
  have front := point_not_mem _ (toDigits_isDigit d.coefficient)
  have power := point_not_mem _ (toDigits_isDigit d.leading.natAbs)
  rw [shape, List.mem_cons, not_or] at front
  have sign : '.' ∉ if d.leading < 0 then ['-'] else plus := by
    split
    next => decide
    next => exact bare
  rw [d.scientific_text first others shape, digits, shape, List.mem_cons, List.mem_append,
    List.mem_cons, List.mem_append]
  cases others with
  | nil => simp [Json.Number.fractionText, front.1, sign, power]
  | cons second rest => simp [Json.Number.fractionText]

end Decimal

namespace Layout

theorem magnitudeText_point (layout : Layout) (m : Magnitude) (nonzero : m.significand ≠ 0)
    (bare : '.' ∉ layout.plus) : '.' ∈ layout.magnitudeText m ↔
      (layout.least ≤ (m.shortest layout.tie).leading ∧
        (m.shortest layout.tie).leading ≤ layout.greatest) ∨
      1 < (m.shortest layout.tie).digits.length := by
  simp only [magnitudeText, nonzero, if_false]
  split
  next within => exact iff_of_true (Decimal.positional_point _) (.inl within)
  next outside => rw [Decimal.scientific_point _ _ bare, or_iff_right outside]

end Layout

/-- One digit, which stands at the fifth place after the point or further behind. -/
def IsShort (x : ℚ) : Prop :=
  ∃ digit power : Nat, 1 ≤ digit ∧ digit ≤ 9 ∧ 5 ≤ power ∧ x = digit / 10 ^ power

theorem IsShort.decimal {x : ℚ} (short : IsShort x) :
    ∃ d : Decimal, d.value = x ∧ d.digits.length = 1 ∧ x ≤ 9 / 10 ^ 5 := by
  obtain ⟨digit, power, _, single, behind, rfl⟩ := short
  refine ⟨⟨digit, -power⟩, ?_, ?_, ?_⟩
  · rw [Decimal.value, zpow_neg, zpow_natCast, div_eq_mul_inv]
  · exact congrArg List.length (Nat.toDigits_of_lt_base (Nat.lt_succ_of_le single))
  · have small : (digit : ℚ) ≤ 9 := by exact_mod_cast single
    have far : (10 : ℚ) ^ 5 ≤ 10 ^ power := pow_le_pow_right₀ (by norm_num) behind
    exact div_le_div₀ (by norm_num) small (by norm_num) far

theorem Decimal.isShort (d : Decimal) (positive : 0 < d.coefficient) (single : d.digits.length = 1)
    (behind : d.leading < -4) : IsShort d.value := by
  have small := d.coefficient_lt
  rw [leading, single] at behind
  rw [single] at small
  obtain ⟨power, down⟩ : ∃ power : Nat, d.exponent = -power := ⟨(-d.exponent).toNat, by omega⟩
  refine ⟨d.coefficient, power, positive, by omega, by omega, ?_⟩
  rw [value, down, zpow_neg, zpow_natCast, div_eq_mul_inv]

theorem Decimal.power_le_value (d : Decimal) (positive : 0 < d.coefficient)
    (single : d.digits.length = 1) (power : Int) (le : power ≤ d.leading) :
    10 ^ power ≤ d.value := by
  rw [leading, single] at le
  have mono := value_mono ⟨1, power⟩ d positive (show power ≤ d.exponent by omega)
  rwa [value, Nat.cast_one, one_mul] at mono

namespace Magnitude

variable (m : Magnitude)

theorem not_rounded_across (x y : ℚ) (nonneg : 0 ≤ x) (low : x ≤ 9 / 10 ^ 5) (high : 1 / 10 ^ 4 ≤ y)
    (lower : nearest? x = some m) : nearest? y ≠ some m := by
  intro upper
  have first := nearest?_between x (9 / 10 ^ 5) y m nonneg low (by linarith) lower upper
  have last := nearest?_between x (1 / 10 ^ 4) y m nonneg (by linarith) high lower upper
  -- Doubles lie closer there than the last short decimal and the first one in positional form.
  have firstClose := nearest?_error _ m (normal_of_large _ (by norm_num)) first
  have lastClose := nearest?_error _ m (normal_of_large _ (by norm_num)) last
  rw [abs_le] at firstClose lastClose
  linarith

theorem rounded_lt_two (x : ℚ) (rounded : nearest? x = some m) (le : m.value ≤ 1) : x < 2 := by
  by_contra large
  obtain ⟨two, exact, value⟩ := exists_count 2 (by decide)
  have mono := nearest?_mono 2 x two m (by norm_num) (le_of_not_gt large) exact rounded
  rw [value] at mono
  norm_num at mono
  linarith

end Magnitude

namespace Layout

open Magnitude

variable (m : Magnitude) (positive : 0 < m.value) (le : m.value ≤ 1)

include positive le

theorem identifier_point : '.' ∉ (identifier.text (.finite false m)).toList ↔
    ∃ x, IsShort x ∧ RoundsTo x m := by
  have nonzero : m.significand ≠ 0 := fun zero => positive.ne' (m.value_of_significand zero)
  have coefficient := m.shortest_coefficient_pos .up nonzero
  have digits : 0 < (m.shortest .up).digits.length := Nat.length_toDigits_pos
  have rounded := m.shortest_value .up
  have point : '.' ∈ identifier.magnitudeText m ↔
      (-4 ≤ (m.shortest .up).leading ∧ (m.shortest .up).leading ≤ 15) ∨
        1 < (m.shortest .up).digits.length :=
    identifier.magnitudeText_point m nonzero (by decide)
  rw [text_finite, signText, if_neg (by decide), List.nil_append, point, not_or]
  constructor
  next =>
    -- Of the two ends of positional form only the lower one can be passed.
    rintro ⟨outside, single⟩
    have single : (m.shortest .up).digits.length = 1 := by omega
    refine ⟨_, (m.shortest .up).isShort coefficient single ?_,
      (roundsTo_iff _ m (Decimal.value_nonneg _)).mpr rounded⟩
    by_contra near
    have huge := (m.shortest .up).power_le_value coefficient single 16 (by omega)
    have small := m.rounded_lt_two _ rounded le
    norm_num at huge
    linarith
  next =>
    rintro ⟨x, short, rounds⟩
    obtain ⟨d, rfl, single, low⟩ := short.decimal
    have other := (roundsTo_iff _ m d.value_nonneg).mp rounds
    have fewest := m.shortest_fewest .up d other
    refine ⟨?_, by omega⟩
    rintro ⟨near, _⟩
    have high := (m.shortest .up).power_le_value coefficient (by omega) (-4) near
    exact m.not_rounded_across _ _ d.value_nonneg low (by simpa using high) other rounded

end Layout

end PlotTables
