import Mathlib.Data.List.DropRight
import PlotTables.Proofs.Binary64.Bits
import PlotTables.Proofs.Binary64.Rounded
import PlotTables.Proofs.Decimal.Identifier

set_option autoImplicit false

namespace PlotTables

namespace Decimal

variable (d : Decimal)

theorem le_digits_length (digits : Nat) (le : 10 ^ digits ≤ d.coefficient) :
    digits < d.digits.length :=
  (Nat.pow_lt_pow_iff_right (by decide)).mp (Nat.lt_of_le_of_lt le d.coefficient_lt)

theorem value_power (digits : Nat) (exponent : Int) :
    value ⟨1, digits + exponent⟩ = value ⟨10 ^ digits, exponent⟩ := by
  have finer := value_finer ⟨1, digits + exponent⟩ exponent (by simp)
  rw [← finer]
  simp

theorem value_mono (other : Decimal) (coefficients : d.coefficient ≤ other.coefficient)
    (exponents : d.exponent ≤ other.exponent) : d.value ≤ other.value := by
  have coefficientsRat : (d.coefficient : ℚ) ≤ other.coefficient := Nat.cast_le.mpr coefficients
  have powers : (10 : ℚ) ^ d.exponent ≤ 10 ^ other.exponent :=
    zpow_le_zpow_right₀ (by norm_num) exponents
  exact mul_le_mul coefficientsRat powers (zpow_nonneg (by norm_num) _) (Nat.cast_nonneg _)

theorem coefficient_of_value (coefficient other : Nat) (exponent : Int)
    (same : value ⟨coefficient, exponent⟩ = value ⟨other, exponent⟩) : coefficient = other := by
  have power : (10 : ℚ) ^ exponent ≠ 0 := zpow_ne_zero _ (by norm_num)
  exact Nat.cast_injective (mul_right_cancel₀ power same)

theorem coefficient_le_of_value (other : Decimal) (same : other.value = d.value)
    (nonzero : d.coefficient % 10 ≠ 0) : d.coefficient ≤ other.coefficient := by
  rcases Int.lt_or_le d.exponent other.exponent with coarser | finer
  next =>
    rw [← other.value_finer d.exponent coarser.le] at same
    have multiple := coefficient_of_value _ _ _ same
    obtain ⟨fewer, power⟩ : ∃ fewer, (other.exponent - d.exponent).toNat = fewer + 1 :=
      ⟨(other.exponent - d.exponent).toNat - 1, by omega⟩
    rw [power, Nat.pow_succ, ← Nat.mul_assoc] at multiple
    omega
  next =>
    rw [← d.value_finer other.exponent finer] at same
    rw [coefficient_of_value _ _ _ same]
    exact Nat.le_mul_of_pos_right _ (Nat.pow_pos (by decide))

end Decimal

namespace Magnitude

variable (m : Magnitude) (tie : Tie)

theorem onGrid?_of_point (grid coefficient : Nat)
    (reads : ofRatio? (coefficient * 10 ^ grid) decimalUnit = some m) :
    m.onGrid? tie grid ≠ none := by
  intro missed
  obtain ⟨below, above⟩ := tie.multiple?_none _ _ _ missed
  rw [Bool.eq_false_iff, Ne, isReadFrom_iff] at below above
  have exact := m.ofRatio?_decimalScaled
  rcases Nat.lt_or_ge (m.decimalScaled / 10 ^ grid) coefficient with past | before
  next =>
    apply above
    have next : m.decimalScaled < (m.decimalScaled / 10 ^ grid + 1) * 10 ^ grid :=
      (Nat.div_lt_iff_lt_mul (Nat.pow_pos (by decide))).mp (Nat.lt_succ_self _)
    exact ofRatio?_between _ _ _ _ m decimalUnit_pos next.le (Nat.mul_le_mul_right _ past) exact
      reads
  next =>
    apply below
    exact ofRatio?_between _ _ _ _ m decimalUnit_pos (Nat.mul_le_mul_right _ before)
      (Nat.div_mul_le_self _ _) reads exact

theorem not_rounded_of_coarser (grid : Nat) (missed : m.onGrid? tie grid = none) (d : Decimal)
    (coarser : (grid : Int) - 1074 ≤ d.exponent) : nearest? d.value ≠ some m := by
  intro rounded
  rw [← d.value_finer _ coarser, nearest?_grid] at rounded
  exact m.onGrid?_of_point tie grid _ rounded missed

theorem rounded_power_between (d upper : Decimal) (rounded : nearest? d.value = some m)
    (upperRounded : nearest? upper.value = some m) (exponents : d.exponent ≤ upper.exponent)
    (more : 10 ^ d.digits.length ≤ upper.coefficient) :
    nearest? (Decimal.value ⟨1, d.digits.length + upper.exponent⟩) = some m := by
  rw [Decimal.value_power]
  have low : d.value ≤ Decimal.value ⟨10 ^ d.digits.length, upper.exponent⟩ :=
    d.value_mono ⟨_, _⟩ d.coefficient_lt.le exponents
  have high : Decimal.value ⟨10 ^ d.digits.length, upper.exponent⟩ ≤ upper.value :=
    Decimal.value_mono ⟨_, _⟩ upper more (le_refl _)
  exact nearest?_between _ _ _ m d.value_nonneg low high rounded upperRounded

theorem shortest_fewest (d : Decimal) (rounded : nearest? d.value = some m) :
    (m.shortest tie).digits.length ≤ d.digits.length := by
  obtain ⟨grid, coefficient, shape, _, _, limit⟩ := m.shortest_found tie
  have positive : 0 < d.digits.length := Nat.length_toDigits_pos
  apply (Nat.length_toDigits_le_iff (by decide) positive).mpr
  by_contra few
  have shortest := m.shortest_value tie
  rw [shape] at few shortest
  have more : 10 ^ d.digits.length ≤ coefficient := Nat.le_of_not_lt few
  rcases limit with single | missed
  next =>
    have ten := Nat.one_lt_pow positive.ne' (show 1 < 10 by decide)
    omega
  next =>
    have coarser := m.not_rounded_of_coarser tie (grid + 1) missed
    by_cases finer : d.exponent ≤ grid - 1074
    next =>
      -- That power of ten would be on the coarser grid.
      have power := m.rounded_power_between d ⟨coefficient, grid - 1074⟩ rounded shortest finer more
      refine coarser _ ?_ power
      change ((grid + 1 : Nat) : Int) - 1074 ≤ d.digits.length + (grid - 1074)
      omega
    next => exact coarser d (by omega) rounded

end Magnitude

section Zeros

theorem digit_range (c : Char) (digit : c.isDigit = true) (nonzero : c ≠ '0') :
    1 ≤ c.toNat - '0'.toNat ∧ c.toNat - '0'.toNat < 10 := by
  have range := Count.isDigit_range c digit
  have zero : '0'.toNat = 48 := rfl
  have other : c.toNat ≠ 48 := by
    intro same
    exact nonzero (Char.toNat_inj.mp same)
  omega

theorem le_ofDigitChars_of_first (first : Char) (others : List Char) (digit : first.isDigit = true)
    (nonzero : first ≠ '0') : 10 ^ others.length ≤ Nat.ofDigitChars 10 (first :: others) 0 := by
  have range := digit_range first digit nonzero
  rw [Nat.ofDigitChars_cons, Nat.ofDigitChars_eq_ofDigitChars_zero]
  exact Nat.le_add_right_of_le (Nat.le_mul_of_pos_right _ (by omega))

theorem ofDigitChars_mod_of_last (front : List Char) (last : Char) (digit : last.isDigit = true)
    (nonzero : last ≠ '0') : Nat.ofDigitChars 10 (front ++ [last]) 0 % 10 ≠ 0 := by
  have range := digit_range last digit nonzero
  rw [Nat.ofDigitChars_append, Nat.ofDigitChars_cons, Nat.ofDigitChars_nil]
  omega

theorem ofDigitChars_zeros (zeros : List Char) (start : Nat) (all : ∀ c ∈ zeros, c = '0') :
    Nat.ofDigitChars 10 zeros start = 10 ^ zeros.length * start := by
  have shape : zeros = List.replicate zeros.length '0' := List.eq_replicate_of_mem all
  rw [shape, Nat.ofDigitChars_replicate_zero, List.length_replicate]

end Zeros

namespace Literal

/-- The digits without the zeros at both ends. -/
def significant (l : Literal) : List Char :=
  ((l.whole ++ l.fraction).dropWhile (· == '0')).rdropWhile (· == '0')

variable (l : Literal)

theorem significant_parts : ∃ before after : List Char,
    l.whole ++ l.fraction = before ++ (l.significant ++ after) ∧
      (∀ c ∈ before, c = '0') ∧ ∀ c ∈ after, c = '0' := by
  let rest := (l.whole ++ l.fraction).dropWhile (· == '0')
  have after : l.significant ++ rest.rtakeWhile (· == '0') = rest :=
    List.rdropWhile_append_rtakeWhile
  refine ⟨(l.whole ++ l.fraction).takeWhile (· == '0'), rest.rtakeWhile (· == '0'), ?_, ?_, ?_⟩
  · rw [after, List.takeWhile_append_dropWhile]
  · intro c member
    have zero := List.mem_takeWhile_imp member
    exact beq_iff_eq.mp zero
  · intro c member
    have zero := List.mem_rtakeWhile_imp member
    exact beq_iff_eq.mp zero

theorem significant_first (first : Char) (others : List Char)
    (shape : l.significant = first :: others) : first ≠ '0' := by
  have after : l.significant ++ _ = _ := List.rdropWhile_append_rtakeWhile
  have kept := List.head?_dropWhile_not (· == '0') (l.whole ++ l.fraction)
  rw [shape] at after
  rw [← after] at kept
  simpa using kept

theorem significant_last (front : List Char) (last : Char)
    (shape : l.significant = front ++ [last]) : last ≠ '0' := by
  intro zero
  have kept := List.rdropWhile_idempotent (· == '0')
    ((l.whole ++ l.fraction).dropWhile (· == '0'))
  rw [← significant, shape, zero, List.rdropWhile_concat_pos _ _ _ rfl] at kept
  have shorter := (List.rdropWhile_prefix (· == '0') (l := front)).length_le
  rw [kept, List.length_append, List.length_singleton] at shorter
  omega

theorem value_significant : ∃ exponent : Int,
    l.decimal.value = Decimal.value ⟨Nat.ofDigitChars 10 l.significant 0, exponent⟩ := by
  obtain ⟨before, after, shape, leading, trailing⟩ := l.significant_parts
  have digits : l.digits = Nat.ofDigitChars 10 l.significant 0 * 10 ^ after.length := by
    rw [Literal.digits, shape, Nat.ofDigitChars_append, Nat.ofDigitChars_append,
      ofDigitChars_zeros before 0 leading, ofDigitChars_zeros after _ trailing, Nat.mul_zero,
      Nat.mul_comm]
  have finer := Decimal.value_finer
    ⟨Nat.ofDigitChars 10 l.significant 0, after.length + l.shift⟩ l.shift (by simp)
  refine ⟨after.length + l.shift, ?_⟩
  rw [← finer, decimal, digits]
  simp

theorem significant_le (all : ∀ c ∈ l.whole ++ l.fraction, c.isDigit = true) (d : Decimal)
    (same : d.value = l.decimal.value) : l.significant.length ≤ d.digits.length := by
  have digits (c : Char) (member : c ∈ l.significant) : c.isDigit = true := by
    obtain ⟨before, after, shape, _⟩ := l.significant_parts
    exact all c (by simp [shape, member])
  obtain ⟨exponent, value⟩ := l.value_significant
  rw [value] at same
  cases shape : l.significant with
  | nil => simp
  | cons first others =>
    have least : Nat.ofDigitChars 10 l.significant 0 ≤ d.coefficient := by
      apply Decimal.coefficient_le_of_value ⟨_, exponent⟩ d same
      obtain ⟨front, last, ends⟩ : ∃ front last, l.significant = front ++ [last] :=
        ⟨_, _, (List.dropLast_append_getLast (by rw [shape]; simp)).symm⟩
      change Nat.ofDigitChars 10 l.significant 0 % 10 ≠ 0
      rw [ends] at digits ⊢
      exact ofDigitChars_mod_of_last front last (digits last (by simp))
        (l.significant_last front last ends)
    have large := le_ofDigitChars_of_first first others (digits first (by simp [shape]))
      (l.significant_first first others shape)
    rw [← shape] at large
    exact d.le_digits_length others.length (Nat.le_trans large least)

end Literal

namespace Layout

theorem text_finite (layout : Layout) (negative : Bool) (m : Magnitude) :
    (layout.text (.finite negative m)).toList = signText negative ++ layout.magnitudeText m := by
  rw [text, String.toList_ofList]
  cases negative <;> rfl

section Written

variable (negative : Bool) (m : Magnitude) (nonzero : m.value ≠ 0)

include nonzero

theorem identifier_literal : ∃ l,
    Literal.read? (identifier.text (.finite negative m)).toList = some l ∧
      l.decimal.value = (m.shortest identifier.tie).value := by
  have significand : m.significand ≠ 0 := fun zero => nonzero (m.value_of_significand zero)
  obtain ⟨d, spells, same⟩ := identifier.magnitudeText_spells m significand (.inl rfl)
  obtain ⟨l, read, _, digits, shift⟩ := spells.reads negative
  rw [text_finite]
  refine ⟨l, read, ?_⟩
  rw [Literal.decimal, digits, shift]
  exact same

theorem identifier_fewest (l : Literal)
    (written : l.WrittenAs (identifier.text (.finite negative m)).toList) (d : Decimal)
    (rounds : Magnitude.RoundsTo d.value m) : l.significant.length ≤ d.digits.length := by
  obtain ⟨read, found, value⟩ := identifier_literal negative m nonzero
  obtain ⟨_, same⟩ := Literal.read?_unique l read _ written found
  have significant : read.significant = l.significant := by rw [same]; rfl
  have digits : ∀ c ∈ read.whole ++ read.fraction, c.isDigit = true := by
    rw [same]
    obtain ⟨sign, fraction, power, parts, _⟩ := written
    exact fun c member => (List.mem_append.mp member).elim (parts.whole c) (parts.fractionDigits c)
  have rounded := (Magnitude.roundsTo_iff d.value m d.value_nonneg).mp rounds
  rw [← significant]
  calc read.significant.length
    _ ≤ (m.shortest identifier.tie).digits.length := read.significant_le digits _ value.symm
    _ ≤ d.digits.length := m.shortest_fewest identifier.tie d rounded

end Written

theorem identifier_shortest (bits : UInt64) (number : Binary64.ofBits bits ≠ .nan) :
    (∃ x, Binary64.read? (identifier.text (.ofBits bits)).toList = some x ∧
      ∀ other, Binary64.ofBits other = x ↔ other = bits) ∧
    (∀ other, identifier.text (.ofBits other) = identifier.text (.ofBits bits) → other = bits) ∧
    ∀ negative m, Binary64.ofBits bits = .finite negative m → m.value ≠ 0 →
      (∃ l : Literal, l.WrittenAs (identifier.text (.ofBits bits)).toList) ∧
      ∀ l : Literal, l.WrittenAs (identifier.text (.ofBits bits)).toList →
        ∀ d : Decimal, Magnitude.RoundsTo d.value m → l.significant.length ≤ d.digits.length := by
  have reads := identifier_reads_back (.ofBits bits)
  have inj (other : UInt64) := Binary64.ofBits_inj bits other number
  refine ⟨⟨_, reads, inj⟩, ?_, ?_⟩
  next =>
    intro other same
    have again := identifier_reads_back (.ofBits other)
    rw [same, reads] at again
    exact (inj other).mp (Option.some.inj again).symm
  next =>
    intro negative m finite nonzero
    rw [finite]
    obtain ⟨l, read, _⟩ := identifier_literal negative m nonzero
    obtain ⟨exact, _, written⟩ := Literal.read?_sound _ l read
    exact ⟨⟨_, written⟩, identifier_fewest negative m nonzero⟩

-- At a power of two, where the doubles below lie closer than those above.
theorem identifier_shortest_power :
    identifier.text (.ofBits 0x3D30000000000000) = "5.684341886080802e-14" ∧
    (∃ x, Binary64.read? "5.684341886080802e-14".toList = some x ∧
      ∀ other, Binary64.ofBits other = x ↔ other = 0x3D30000000000000) ∧
    ∃ m, Binary64.ofBits 0x3D30000000000000 = .finite false m ∧ m.value ≠ 0 ∧
      ∀ d : Decimal, Magnitude.RoundsTo d.value m → 16 ≤ d.digits.length := by
  have text : identifier.text (.ofBits 0x3D30000000000000) = "5.684341886080802e-14" := by
    decide +kernel
  have finite : Binary64.ofBits 0x3D30000000000000 =
      .finite false ⟨2 ^ 52, 978, by decide, by decide, by decide⟩ := by
    decide +kernel
  have nonzero : Magnitude.value ⟨2 ^ 52, 978, by decide, by decide, by decide⟩ ≠ 0 :=
    div_ne_zero (Nat.cast_ne_zero.mpr (by decide +kernel)) Magnitude.unit_rat_pos.ne'
  obtain ⟨read, _, fewest⟩ := identifier_shortest 0x3D30000000000000 (by rw [finite]; simp)
  obtain ⟨⟨l, written⟩, least⟩ := fewest _ _ finite nonzero
  rw [text] at read written least
  have found : Literal.read? "5.684341886080802e-14".toList =
      some ⟨false, ['5'], "684341886080802".toList, -14⟩ := by
    decide +kernel
  have same := Literal.eq_of_read? l _ _ written found (by decide)
  have digits : l.significant.length = 16 := by
    rw [same]
    decide +kernel
  have fewestDigits := least l written
  rw [digits] at fewestDigits
  exact ⟨text, read, _, finite, nonzero, fewestDigits⟩

end Layout

end PlotTables
