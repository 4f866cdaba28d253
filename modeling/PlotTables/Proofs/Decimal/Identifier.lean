import PlotTables.Proofs.Count
import PlotTables.Proofs.Decimal.Digits
import PlotTables.Proofs.Decimal.Numerals

set_option autoImplicit false

namespace PlotTables

theorem signText_written (negative : Bool) : Literal.SignText negative (signText negative) := by
  cases negative with
  | false => exact .none
  | true => exact .minus

theorem fractionText_written (digits : List Char) :
    Literal.FractionText digits (Json.Number.fractionText digits) := by
  cases digits with
  | nil => exact .none
  | cons first others => exact .point _

/-- With either sign the text is a numeral of the decimal. -/
structure Spells (text : List Char) (d : Decimal) : Prop where
  first : ∃ first others, text = first :: others ∧ first.isDigit = true
  reads : ∀ negative, ∃ l, Literal.read? (signText negative ++ text) = some l ∧
    l.negative = negative ∧ l.digits = d.coefficient ∧ l.shift = d.exponent

theorem pointed_spells (coefficient places : Nat) :
    Spells (pointed coefficient places) ⟨coefficient, -places⟩ := by
  obtain ⟨whole, fraction, parts⟩ := pointed_parts coefficient places
  constructor
  next =>
    obtain ⟨first, others, rfl⟩ := List.exists_cons_of_ne_nil parts.nonempty
    exact ⟨first, _, parts.text, parts.wholeDigits first (by simp)⟩
  next =>
    intro negative
    have read := Literal.read?_of_parts ⟨negative, whole, fraction, 0⟩ _ _ []
      ⟨signText_written negative, parts.wholeDigits, .point _, parts.fractionDigits,
        .inl parts.nonempty, .none⟩ (by simp)
    rw [List.append_nil, ← parts.text] at read
    exact ⟨_, read, rfl, parts.value, by simp only [Literal.shift, parts.length, Int.zero_sub]⟩

theorem Binary64.ofScaledRatio_eq_finite (negative sign : Bool) (num den : Nat) (m : Magnitude) :
    ofScaledRatio negative num den = .finite sign m ↔
      sign = negative ∧ Magnitude.ofRatio? num den = some m := by
  unfold ofScaledRatio
  cases Magnitude.ofRatio? num den with
  | none => simp
  | some magnitude => simp [eq_comm]

namespace Decimal

variable (d : Decimal)

theorem positional_spells : Spells d.positional d.filled := pointed_spells _ _

theorem power_written (plus : List Char) (sign : plus = [] ∨ plus = ['+']) :
    Literal.PowerText d.leading
      ('e' :: ((if d.leading < 0 then ['-'] else plus) ++ Nat.toDigits 10 d.leading.natAbs)) := by
  have written (negative : Bool) (mark : List Char) (signText : Literal.SignText negative mark) :=
    Literal.PowerText.power 'e' negative mark _ (.inl rfl) signText Nat.toDigits_ne_nil
      (toDigits_isDigit d.leading.natAbs)
  rw [Nat.ofDigitChars_ten_toDigits] at written
  by_cases below : d.leading < 0
  next =>
    have same : Literal.signed true d.leading.natAbs = d.leading := by
      simp only [Literal.signed, if_true]
      omega
    have minus := written true ['-'] .minus
    rw [if_pos below]
    rwa [same] at minus
  next =>
    have same : Literal.signed false d.leading.natAbs = d.leading := by
      simp only [Literal.signed, Bool.false_eq_true, if_false]
      omega
    have unsigned : Literal.SignText false plus := by
      rcases sign with rfl | rfl
      · exact .none
      · exact .plus
    have positive := written false plus unsigned
    rw [if_neg below]
    rwa [same] at positive

theorem scientific_spells (plus : List Char) (sign : plus = [] ∨ plus = ['+'])
    (small : d.leading.natAbs < 65536) : Spells (d.scientific plus) d := by
  obtain ⟨first, others, shape⟩ :=
    List.exists_cons_of_ne_nil (Nat.toDigits_ne_nil (b := 10) (n := d.coefficient))
  have digits := toDigits_isDigit d.coefficient
  have text := d.scientific_text first others shape plus
  rw [shape] at digits
  constructor
  next => exact ⟨first, _, text, digits first (by simp)⟩
  next =>
    intro negative
    have read := Literal.read?_of_parts ⟨negative, [first], others, d.leading⟩ _ _ _
      ⟨signText_written negative, fun c member => digits c (by simp at member; simp [member]),
        fractionText_written others, fun c member => digits c (List.mem_cons_of_mem first member),
        .inl (List.cons_ne_nil _ _), d.power_written plus sign⟩ small
    refine ⟨_, by rwa [text], rfl, ?_, ?_⟩
    · simp only [Literal.digits, List.cons_append, List.nil_append, ← shape]
      exact Nat.ofDigitChars_ten_toDigits
    · rw [Literal.shift, d.leading_eq first others shape, Int.add_sub_cancel]

theorem coarsest_exponent (points : Nat → Option Nat) (finest widest : Nat) :
    ∃ grid ≤ widest, (coarsest points finest widest).exponent = (grid : Int) - 1074 := by
  induction widest with
  | zero => exact ⟨0, Nat.le_refl _, rfl⟩
  | succ widest ih =>
    simp only [coarsest]
    split
    next => exact ⟨widest + 1, Nat.le_refl _, rfl⟩
    next =>
      obtain ⟨grid, within, exponent⟩ := ih
      exact ⟨grid, Nat.le_succ_of_le within, exponent⟩

theorem ofDecimal_eq_finite (negative sign : Bool) (m : Magnitude) :
    Binary64.ofDecimal negative d.coefficient d.exponent = .finite sign m ↔
      sign = negative ∧ Magnitude.nearest? d.value = some m := by
  unfold Binary64.ofDecimal
  rw [Binary64.ofScaledRatio_eq_finite, Magnitude.ofRatio?_nearest _ _ (Nat.pow_pos (by decide)),
    div_right_comm, Nat.cast_mul, mul_div_cancel_right₀ _ Magnitude.unit_rat_pos.ne',
    Nat.cast_mul]
  cases power : d.exponent with
  | ofNat up =>
    rw [value_ofNat d up power]
    simp
  | negSucc less =>
    rw [value_negSucc d less power]
    simp

end Decimal

theorem toLower_of_isDigit (c : Char) (digit : c.isDigit = true) : c.toLower = c := by
  have range := Count.isDigit_range c digit
  unfold Char.toLower
  rw [dif_neg]
  rintro ⟨upper, _⟩
  have upper : 65 ≤ c.toNat := UInt32.le_iff_toNat_le.mp upper
  omega

theorem Spells.read? (text : List Char) (d : Decimal) (negative : Bool) (m : Magnitude)
    (spells : Spells text d) (rounded : Magnitude.nearest? d.value = some m) :
    Binary64.read? (signText negative ++ text) = some (.finite negative m) := by
  obtain ⟨first, others, rfl, digit⟩ := spells.first
  obtain ⟨l, reads, sign, digits, shift⟩ := spells.reads negative
  have noWord (letter : Char) (rest : List Char) (other : letter.isDigit = false) :
      (first :: others).map Char.toLower ≠ letter :: rest := by
    rw [List.map_cons, toLower_of_isDigit first digit]
    rintro same
    cases same
    exact Bool.noConfusion (digit.symm.trans other)
  have split := Literal.readSign_text negative _ first others (signText_written negative)
    (Literal.unsigned_of_isDigit first digit)
  have value : Binary64.ofLiteral l = .finite negative m := by
    rw [Binary64.ofLiteral, sign, digits, shift]
    exact (d.ofDecimal_eq_finite negative negative m).mpr ⟨rfl, rounded⟩
  simp only [Binary64.read?, split]
  rw [if_neg (not_or.mpr ⟨noWord _ _ rfl, noWord _ _ rfl⟩), if_neg (noWord _ _ rfl), reads,
    Option.map_some, value]

namespace Magnitude

variable (m : Magnitude) (tie : Tie)

theorem scaled_lt_two_pow (bits : Nat) (room : 53 + m.exponent ≤ bits) : m.scaled < 2 ^ bits := by
  calc m.scaled < 2 ^ 53 * 2 ^ m.exponent := m.scaled_lt
    _ = 2 ^ (53 + m.exponent) := (Nat.pow_add _ _ _).symm
    _ ≤ 2 ^ bits := Nat.pow_le_pow_right Nat.two_pos room

theorem decimalScaled_log2_lt (bits power : Nat) (room : 53 + m.exponent ≤ bits)
    (unit : decimalUnit = 5 ^ power) : m.decimalScaled.log2 < bits + 3 * power := by
  have below : m.decimalScaled < 2 ^ (bits + 3 * power) := by
    rw [decimalScaled, unit, Nat.pow_add, Nat.pow_mul]
    exact Nat.mul_lt_mul_of_lt_of_le (m.scaled_lt_two_pow bits room)
      (Nat.pow_le_pow_left (by decide) power) (Nat.pow_pos (by decide))
  by_cases zero : m.decimalScaled = 0
  next =>
    rw [zero, Nat.log2_zero]
    omega
  next => exact (Nat.log2_lt zero).mpr below

theorem widestGrid_le : m.widestGrid ≤ 1603 := by
  have log := m.decimalScaled_log2_lt (53 + 2045) 1074 (Nat.add_le_add_left m.exponent_le 53)
    (by rw [decimalUnit])
  simp only [widestGrid]
  omega

theorem shortest_leading_lt : (m.shortest tie).leading.natAbs < 65536 := by
  obtain ⟨grid, within, exponent⟩ :=
    Decimal.coarsest_exponent (m.onGrid? tie) m.decimalScaled m.widestGrid
  have widest := m.widestGrid_le
  have few : (m.shortest tie).digits.length ≤ 17 :=
    (Nat.length_toDigits_le_iff (by decide) (by decide)).mpr (m.shortest_coefficient_lt tie)
  have place : (m.shortest tie).exponent = (grid : Int) - 1074 := exponent
  simp only [Decimal.leading, place]
  omega

end Magnitude

namespace Layout

theorem magnitudeText_spells (layout : Layout) (m : Magnitude) (nonzero : m.significand ≠ 0)
    (plus : layout.plus = [] ∨ layout.plus = ['+']) :
    ∃ d, Spells (layout.magnitudeText m) d ∧ d.value = (m.shortest layout.tie).value := by
  simp only [magnitudeText, nonzero, if_false]
  split
  next => exact ⟨_, Decimal.positional_spells _, Decimal.filled_value _⟩
  next =>
    have small := m.shortest_leading_lt layout.tie
    exact ⟨_, Decimal.scientific_spells _ _ plus small, rfl⟩

theorem magnitudeText_reads (layout : Layout) (m : Magnitude) (negative : Bool)
    (plus : layout.plus = [] ∨ layout.plus = ['+']) :
    Binary64.read? (signText negative ++ layout.magnitudeText m) = some (.finite negative m) := by
  by_cases zero : m.significand = 0
  next =>
    simp only [magnitudeText, zero, if_true]
    exact (pointed_spells 0 1).read? _ _ _ _ (m.nearest?_zero zero _)
  next =>
    obtain ⟨d, spells, same⟩ := layout.magnitudeText_spells m zero plus
    have value := m.shortest_value layout.tie
    rw [← same] at value
    exact spells.read? _ _ _ _ value

theorem identifier_reads (x : Binary64) (number : x ≠ .nan) :
    Binary64.read? (identifier.text x).toList = some x := by
  rw [text, String.toList_ofList]
  cases x with
  | nan => exact absurd rfl number
  | infinity negative => cases negative <;> rfl
  | finite negative m =>
    have reads := identifier.magnitudeText_reads m negative (.inl rfl)
    cases negative <;> exact reads

theorem identifier_reads_back (x : Binary64) :
    Binary64.read? (identifier.text x).toList = some x := by
  by_cases number : x = .nan
  next =>
    subst number
    rfl
  next => exact identifier_reads x number

end Layout

end PlotTables
