import PlotTables.Decimal.Layout
import PlotTables.Proofs.Decimal.Shortest
import PlotTables.Proofs.Json.Numbers

set_option autoImplicit false

namespace PlotTables

theorem toDigits_isDigit (n : Nat) : ∀ c ∈ Nat.toDigits 10 n, c.isDigit = true := by
  intro c member
  exact Nat.isDigit_of_mem_toDigits (by decide) (by decide) member

theorem toDigits_first (n : Nat) (positive : 0 < n) :
    ∃ first others, Nat.toDigits 10 n = first :: others ∧ first ≠ '0' := by
  induction n using Nat.strongRecOn with
  | _ n ih =>
    by_cases small : n < 10
    next =>
      refine ⟨n.digitChar, [], Nat.toDigits_of_lt_base small, ?_⟩
      have nonzero : ∀ k < 10, 0 < k → Nat.digitChar k ≠ '0' := by decide
      exact nonzero n small positive
    next =>
      obtain ⟨first, others, shape, nonzero⟩ := ih (n / 10) (by omega) (by omega)
      refine ⟨first, others ++ [(n % 10).digitChar], ?_, nonzero⟩
      rw [Nat.toDigits_of_base_le (by decide) (by omega), shape]
      rfl

theorem toDigits_leading (n : Nat) : Nat.toDigits 10 n = ['0'] ∨
    ∃ first others, Nat.toDigits 10 n = first :: others ∧ first ≠ '0' := by
  rcases Nat.eq_zero_or_pos n with rfl | positive
  · exact .inl (Nat.toDigits_zero 10)
  · exact .inr (toDigits_first n positive)

def signText (negative : Bool) : List Char := if negative then ['-'] else []

def padded (coefficient places : Nat) : List Char :=
  List.replicate (places + 1 - (Nat.toDigits 10 coefficient).length) '0' ++
    Nat.toDigits 10 coefficient

section Padded

variable (coefficient places : Nat)

theorem padded_isDigit : ∀ c ∈ padded coefficient places, c.isDigit = true := by
  intro c member
  rcases List.mem_append.mp member with zero | digit
  · rw [List.eq_of_mem_replicate zero]
    decide
  · exact toDigits_isDigit coefficient c digit

theorem padded_length : places + 1 ≤ (padded coefficient places).length := by
  simp only [padded, List.length_append, List.length_replicate]
  omega

theorem padded_value : Nat.ofDigitChars 10 (padded coefficient places) 0 = coefficient := by
  rw [padded, Nat.ofDigitChars_append, Nat.ofDigitChars_replicate_zero, Nat.mul_zero,
    Nat.ofDigitChars_ten_toDigits]

theorem padded_leading (positive : 0 < coefficient) :
    (padded coefficient places).take ((padded coefficient places).length - places) = ['0'] ∨
      ∃ first others, (padded coefficient places).take
        ((padded coefficient places).length - places) = first :: others ∧ first ≠ '0' := by
  have long := padded_length coefficient places
  rcases Nat.lt_or_ge places (Nat.toDigits 10 coefficient).length with enough | few
  next =>
    obtain ⟨first, others, shape, nonzero⟩ := toDigits_first coefficient positive
    have whole : padded coefficient places = first :: others := by
      rw [padded, Nat.sub_eq_zero_of_le enough, shape]
      rfl
    obtain ⟨kept, cut⟩ : ∃ kept, (padded coefficient places).length - places = kept + 1 :=
      ⟨(padded coefficient places).length - places - 1, by omega⟩
    exact .inr ⟨first, others.take kept, by rw [cut, whole, List.take_succ_cons], nonzero⟩
  next =>
    have one : (padded coefficient places).length - places = 1 := by
      simp only [padded, List.length_append, List.length_replicate]
      omega
    left
    rw [one, padded, Nat.succ_sub few, List.replicate_succ]
    rfl

/-- A numeral in positional form as it stands before and after its point. -/
structure PointedParts (whole fraction : List Char) : Prop where
  text : pointed coefficient places = whole ++ '.' :: fraction
  nonempty : whole ≠ []
  wholeDigits : ∀ c ∈ whole, c.isDigit = true
  fractionDigits : ∀ c ∈ fraction, c.isDigit = true
  length : fraction.length = places
  value : Nat.ofDigitChars 10 (whole ++ fraction) 0 = coefficient
  leading : 0 < coefficient → whole = ['0'] ∨ ∃ first others, whole = first :: others ∧ first ≠ '0'

theorem pointed_parts : ∃ whole fraction,
    PointedParts coefficient places whole fraction := by
  have digits := padded_isDigit coefficient places
  have long := padded_length coefficient places
  let cut := (padded coefficient places).length - places
  refine ⟨(padded coefficient places).take cut, (padded coefficient places).drop cut, rfl, ?_, ?_,
    ?_, ?_, ?_, padded_leading coefficient places⟩
  · apply List.ne_nil_of_length_pos
    rw [List.length_take]
    omega
  · exact fun c member => digits c (List.mem_of_mem_take member)
  · exact fun c member => digits c (List.mem_of_mem_drop member)
  · rw [List.length_drop]
    omega
  · rw [List.take_append_drop]
    exact padded_value coefficient places

end Padded

namespace Decimal

def filled (d : Decimal) : Decimal :=
  let places := max 1 (-d.exponent).toNat
  ⟨d.coefficient * 10 ^ (d.exponent + places).toNat, -places⟩

theorem filled_value (d : Decimal) : d.filled.value = d.value := by
  have same := d.value_finer (-(max 1 (-d.exponent).toNat : Nat)) (by omega)
  rwa [sub_neg_eq_add] at same

theorem coefficient_lt (d : Decimal) : d.coefficient < 10 ^ d.digits.length :=
  (Nat.length_toDigits_le_iff (by decide) Nat.length_toDigits_pos).mp (Nat.le_refl _)

section Scientific

variable (d : Decimal) (first : Char) (others : List Char) (shape : d.digits = first :: others)

include shape

theorem leading_eq : d.leading = d.exponent + others.length := by
  simp only [leading, shape, List.length_cons]
  omega

theorem scientific_text (plus : List Char) : d.scientific plus =
    first :: (Json.Number.fractionText others ++
      'e' :: ((if d.leading < 0 then ['-'] else plus) ++ Nat.toDigits 10 d.leading.natAbs)) := by
  simp only [scientific, shape]
  cases others <;> simp [Json.Number.fractionText]

end Scientific

end Decimal

end PlotTables
