import PlotTables.Proofs.Decimal.Digits
import PlotTables.Proofs.Json.Numbers
import PlotTables.Report.Basic

set_option autoImplicit false

namespace PlotTables

/-- The text is a number with that sign and that decimal. -/
structure Writes (text : List Char) (negative : Bool) (d : Decimal) (n : Json.Number) : Prop where
  formed : n.WellFormed
  text : n.text = signText negative ++ text
  negative : n.negative = negative
  coefficient : n.coefficient = d.coefficient
  power : n.power = d.exponent

theorem pointed_writes (coefficient places : Nat) (negative : Bool) (positive : 0 < coefficient)
    (fractional : 0 < places) :
    ∃ n, Writes (pointed coefficient places) negative ⟨coefficient, -places⟩ n := by
  obtain ⟨whole, fraction, parts⟩ := pointed_parts coefficient places
  refine ⟨⟨negative, whole, fraction, false, []⟩,
    ⟨parts.wholeDigits, parts.leading positive, parts.fractionDigits, by simp, by simp⟩,
    ?_, rfl, parts.value, ?_⟩
  · simp only [Json.Number.text, parts.text, Json.Number.exponentText, List.append_nil,
      Json.Number.fractionText_some fraction (by rw [parts.length]; exact fractional)]
    rfl
  · simp [Json.Number.power, Json.Number.exponentValue, parts.length]

theorem scientific_writes (d : Decimal) (negative : Bool) (positive : 0 < d.coefficient) :
    ∃ n, Writes (d.scientific ['+']) negative d n := by
  obtain ⟨first, others, shape, nonzero⟩ := toDigits_first d.coefficient positive
  have digits := toDigits_isDigit d.coefficient
  rw [shape] at digits
  have exponent := toDigits_isDigit d.leading.natAbs
  have nonempty : Nat.toDigits 10 d.leading.natAbs ≠ [] := Nat.toDigits_ne_nil
  refine ⟨⟨negative, [first], others, d.leading < 0, Nat.toDigits 10 d.leading.natAbs⟩,
    ⟨?_, .inr ⟨first, [], rfl, nonzero⟩, ?_, exponent, nonempty.elim⟩, ?_, rfl,
    ?_, ?_⟩
  · exact fun c member => digits c (by simp at member; simp [member])
  · exact fun c member => digits c (List.mem_cons_of_mem first member)
  · obtain ⟨digit, more, power⟩ := List.exists_cons_of_ne_nil nonempty
    rw [d.scientific_text first others shape]
    simp only [Json.Number.text, power, signText]
    by_cases below : d.leading < 0 <;> simp [Json.Number.exponentText, below]
  · simp only [Json.Number.coefficient, List.cons_append, List.nil_append, ← shape]
    exact Nat.ofDigitChars_ten_toDigits
  · have places := d.leading_eq first others shape
    simp only [Json.Number.power, Json.Number.exponentValue, Nat.ofDigitChars_ten_toDigits,
      decide_eq_true_eq]
    split <;> omega

namespace Decimal

theorem positional_writes (d : Decimal) (negative : Bool) (positive : 0 < d.coefficient) :
    ∃ n, Writes d.positional negative d.filled n := by
  apply pointed_writes
  · exact Nat.mul_pos positive (Nat.pow_pos (by decide))
  · omega

theorem filled_coefficient_lt (d : Decimal) (few : d.coefficient < 10 ^ 17)
    (short : d.leading ≤ 15) : d.filled.coefficient < 10 ^ 17 := by
  by_cases fractional : d.exponent < 0
  next =>
    have none : (d.exponent + (max 1 (-d.exponent).toNat : Nat)).toNat = 0 := by omega
    simpa only [filled, none, Nat.pow_zero, Nat.mul_one] using few
  next =>
    have room : d.digits.length + (d.exponent + (max 1 (-d.exponent).toNat : Nat)).toNat ≤ 17 := by
      simp only [leading] at short
      omega
    calc d.filled.coefficient
      _ < 10 ^ d.digits.length * 10 ^ (d.exponent + (max 1 (-d.exponent).toNat : Nat)).toNat :=
        Nat.mul_lt_mul_of_pos_right d.coefficient_lt (Nat.pow_pos (by decide))
      _ ≤ 10 ^ 17 := by
        rw [← Nat.pow_add]
        exact Nat.pow_le_pow_right (by decide) room

end Decimal

namespace Magnitude

/-- The decimal as it is written in a report: in positional form with its zeros. -/
def written (m : Magnitude) : Decimal :=
  if m.significand = 0 then ⟨0, -1⟩
  else if Layout.json.least ≤ (m.shortest .even).leading ∧
      (m.shortest .even).leading ≤ Layout.json.greatest then (m.shortest .even).filled
  else m.shortest .even

theorem written_value (m : Magnitude) : nearest? m.written.value = some m := by
  unfold written
  split
  next zero => exact m.nearest?_zero zero _
  next =>
    split
    next => rw [Decimal.filled_value, shortest_value]
    next => rw [shortest_value]

theorem written_coefficient_lt (m : Magnitude) : m.written.coefficient < 10 ^ 17 := by
  have few := m.shortest_coefficient_lt .even
  unfold written
  split
  next => exact Nat.pow_pos (by decide)
  next =>
    split
    next positional => exact Decimal.filled_coefficient_lt _ few positional.2
    next => exact few

theorem written_of_nat (m : Magnitude) (power : Nat) (up : m.written.exponent = power) :
    m.significand ≠ 0 ∧ m.written = m.shortest .even := by
  unfold written at up ⊢
  split at up
  next => cases up
  next nonzero =>
    rw [if_neg nonzero]
    split at up
    next =>
      simp only [Decimal.filled] at up
      omega
    next scientific => exact ⟨nonzero, if_neg scientific⟩

theorem magnitudeText_writes (m : Magnitude) (negative : Bool) :
    ∃ n, Writes (Layout.json.magnitudeText m) negative m.written n := by
  have tie : Layout.json.tie = .even := rfl
  have plus : Layout.json.plus = ['+'] := rfl
  simp only [Layout.magnitudeText, written, tie, plus]
  by_cases zero : m.significand = 0
  next =>
    rw [if_pos zero, if_pos zero]
    exact ⟨⟨negative, ['0'], ['0'], false, []⟩, ⟨by simp, .inl rfl, by simp, by simp, by simp⟩,
      rfl, rfl, rfl, rfl⟩
  next =>
    have positive := m.shortest_coefficient_pos .even zero
    rw [if_neg zero, if_neg zero]
    split
    next => exact Decimal.positional_writes _ negative positive
    next => exact scientific_writes _ negative positive

end Magnitude

end PlotTables
