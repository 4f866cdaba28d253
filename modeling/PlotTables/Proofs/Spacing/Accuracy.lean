import Mathlib.Algebra.Order.Floor.Div
import Mathlib.Data.Nat.Cast.Field
import PlotTables.Proofs.Spacing

set_option autoImplicit false

namespace PlotTables

open Magnitude Binary64

/-- What a step keeps of the exact quotient when only the quotient itself is rounded. -/
structure CloseStep (rows gaps : Nat) (step : Magnitude) : Prop where
  close : |step.value * gaps - rows| ≤ rows / 2 ^ 53
  whole : gaps ∣ rows → step.value = (rows / gaps : Nat)

section Step

variable (rows gaps : Nat) (positive : 0 < gaps) (le : gaps ≤ rows) (few : rows < 2 ^ 53)

include positive le few

theorem closeStep_of_rounded (step : Magnitude)
    (rounded : nearest? (rows / gaps) = some step) : CloseStep rows gaps step where
  close := by
    have gapsRat : (0 : ℚ) < gaps := Nat.cast_pos.mpr positive
    have oneLe : (1 : ℚ) ≤ rows / gaps := (one_le_div gapsRat).mpr (Nat.cast_le.mpr le)
    have error := nearest?_error _ _ (normal_of_one_le _ oneLe) rounded
    have cancel : (rows : ℚ) / gaps * gaps = rows := div_mul_cancel₀ _ gapsRat.ne'
    calc |step.value * gaps - rows| = |step.value - rows / gaps| * gaps := by
          rw [← abs_of_pos gapsRat, ← abs_mul, abs_of_pos gapsRat, sub_mul, cancel]
      _ ≤ rows / gaps / 2 ^ 53 * gaps := mul_le_mul_of_nonneg_right error gapsRat.le
      _ = rows / 2 ^ 53 := by rw [div_mul_eq_mul_div, cancel]
  whole := by
    intro divides
    have exact : (rows : ℚ) / gaps = (rows / gaps : Nat) :=
      (Nat.cast_div divides (Nat.cast_ne_zero.mpr positive.ne')).symm
    obtain ⟨m, kept, value⟩ :=
      nearest?_natCast (rows / gaps) (Nat.lt_of_le_of_lt (Nat.div_le_self _ _) few)
    rw [exact, kept] at rounded
    cases rounded
    exact value

theorem closeStep_computed (step : Magnitude)
    (computed : (ofNat rows).div (ofNat gaps) = .finite false step) : CloseStep rows gaps step := by
  obtain ⟨a, rowsRounded, value⟩ := nearest?_natCast rows few
  have range : (rows : ℚ) / gaps < 2 ^ 53 := by
    have rowsRat : (rows : ℚ) < 2 ^ 53 := by exact_mod_cast few
    exact lt_of_le_of_lt (div_le_self (Nat.cast_nonneg _) (by exact_mod_cast positive)) rowsRat
  obtain ⟨exact, rounded⟩ := nearest?_exists (rows / gaps) (by positivity) 53 range (by decide)
  have same := step_computed rows gaps a exact positive (by omega) rowsRounded (by rwa [value])
  rw [computed] at same
  cases same
  exact closeStep_of_rounded rows gaps positive le few step rounded

end Step

theorem multiple_close (rows gaps i : Nat) (step p : Magnitude) (close : CloseStep rows gaps step)
    (one : 1 ≤ step.value) (fine : rows * gaps ≤ 2 ^ 51) (inner : i < gaps)
    (rounded : nearest? (i * step.value) = some p) :
    |p.value * gaps - (i * rows : Nat)| < 1 := by
  have iRat : (0 : ℚ) ≤ i := Nat.cast_nonneg _
  have gapsRat : (0 : ℚ) ≤ gaps := Nat.cast_nonneg _
  have total : (i * rows : ℚ) ≤ 2 ^ 51 := by
    have bound : i * rows ≤ 2 ^ 51 := by
      calc i * rows ≤ gaps * rows := Nat.mul_le_mul_right _ inner.le
        _ ≤ 2 ^ 51 := by rwa [Nat.mul_comm]
    exact_mod_cast bound
  have ofStep : |i * step.value * gaps - i * rows| ≤ i * rows / 2 ^ 53 := by
    calc |i * step.value * gaps - i * rows| = i * |step.value * gaps - rows| := by
          rw [mul_assoc, ← mul_sub, abs_mul, abs_of_nonneg iRat]
      _ ≤ i * (rows / 2 ^ 53) := mul_le_mul_of_nonneg_left close.close iRat
      _ = i * rows / 2 ^ 53 := (mul_div_assoc _ _ _).symm
  have ofProduct : |p.value * gaps - i * step.value * gaps| ≤ i * step.value * gaps / 2 ^ 53 := by
    calc |p.value * gaps - i * step.value * gaps| = |p.value - i * step.value| * gaps := by
          rw [← sub_mul, abs_mul, abs_of_nonneg gapsRat]
      _ ≤ i * step.value / 2 ^ 53 * gaps :=
        mul_le_mul_of_nonneg_right (multiple_error step p i one rounded) gapsRat
      _ = i * step.value * gaps / 2 ^ 53 := div_mul_eq_mul_div _ _ _
  obtain ⟨stepLow, stepHigh⟩ := abs_le.mp ofStep
  obtain ⟨low, high⟩ := abs_le.mp ofProduct
  -- Each error is about a quarter at most.
  rw [Nat.cast_mul, abs_lt]
  constructor <;> linarith

/-- The exact quotient lies between an index and the next one, either of which it may be. -/
structure Brackets (count parts index : Nat) : Prop where
  low : index * parts ≤ count
  high : count ≤ (index + 1) * parts

theorem floor_brackets (count parts : Nat) (x : ℚ) (nonneg : 0 ≤ x)
    (close : |x * parts - count| < 1) : Brackets count parts ⌊x⌋₊ := by
  have partsRat : (0 : ℚ) ≤ parts := Nat.cast_nonneg _
  obtain ⟨low, high⟩ := abs_lt.mp close
  have below := mul_le_mul_of_nonneg_right (Nat.floor_le nonneg) partsRat
  have above := mul_le_mul_of_nonneg_right (Nat.lt_floor_add_one x).le partsRat
  constructor
  next =>
    have less : (⌊x⌋₊ * parts : ℚ) < count + 1 := by linarith
    exact Nat.lt_succ_iff.mp (by exact_mod_cast less)
  next =>
    have less : (count : ℚ) < (⌊x⌋₊ + 1) * parts + 1 := by linarith
    exact Nat.lt_succ_iff.mp (by exact_mod_cast less)

theorem Brackets.gap (count rows parts index next : Nat) (uneven : ¬parts ∣ rows)
    (positive : 0 < parts) (first : Brackets count parts index)
    (second : Brackets (count + rows) parts next) :
    next = index + rows / parts ∨ next = index + rows / parts + 1 := by
  have whole := Nat.div_add_mod' rows parts
  have some' : rows % parts ≠ 0 := fun none => uneven (Nat.dvd_of_mod_eq_zero none)
  have small := Nat.mod_lt rows positive
  obtain ⟨firstLow, firstHigh⟩ := first
  obtain ⟨secondLow, secondHigh⟩ := second
  have above : next < index + rows / parts + 2 := by
    apply Nat.lt_of_mul_lt_mul_right (a := parts)
    linarith
  have below : index + rows / parts < next + 1 := by
    apply Nat.lt_of_mul_lt_mul_right (a := parts)
    have least : 0 < rows % parts := Nat.pos_of_ne_zero some'
    linarith
  omega

theorem ceilDiv_of_not_dvd (count parts : Nat) (positive : 0 < parts) (uneven : ¬parts ∣ count) :
    count ⌈/⌉ parts = count / parts + 1 := by
  have whole := Nat.div_add_mod' count parts
  have rest : count % parts ≠ 0 := fun none => uneven (Nat.dvd_of_mod_eq_zero none)
  have small := Nat.mod_lt count positive
  rw [Nat.ceilDiv_eq_add_pred_div]
  apply Nat.div_eq_of_lt_le
  · rw [Nat.succ_mul]
    omega
  · rw [Nat.succ_mul, Nat.succ_mul]
    omega

theorem spaced_position (available target i index : Nat)
    (found : ((List.range (target - 1)).map (spacedAt available target) ++
      [available - 1])[i]? = some index) :
    (i < target - 1 ∧ index = spacedAt available target i) ∨
      (i = target - 1 ∧ index = available - 1) := by
  rw [List.getElem?_append, List.length_map, List.length_range] at found
  split at found
  next inner =>
    rw [List.getElem?_map, List.getElem?_range inner] at found
    exact .inl ⟨inner, (Option.some.inj found).symm⟩
  next outer =>
    rw [List.getElem?_singleton] at found
    split at found
    next first => exact .inr ⟨by omega, (Option.some.inj found).symm⟩
    next => cases found

section Spaced

variable (available target : Nat) (several : 1 < target) (le : target ≤ available)
  (fine : (available - 1) * (target - 1) ≤ 2 ^ 51)

include several fine

theorem rows_le_of_fine : available - 1 ≤ 2 ^ 51 :=
  (Nat.le_mul_of_pos_right _ (by omega)).trans fine

include le

theorem target_le_of_fine : target ≤ 2 ^ 50 := by
  have square : (target - 1) * (target - 1) ≤ 2 ^ 51 :=
    (Nat.mul_le_mul_right _ (by omega)).trans fine
  by_contra large
  have far := Nat.mul_le_mul (show 2 ^ 50 ≤ target - 1 by omega)
    (show 2 ^ 50 ≤ target - 1 by omega)
  omega

theorem spacedAt_close (i : Nat) (inner : i < target - 1) :
    ∃ step p, CloseStep (available - 1) (target - 1) step ∧ 1 ≤ step.value ∧
      nearest? (i * step.value) = some p ∧ spacedAt available target i = ⌊p.value⌋₊ := by
  have few := rows_le_of_fine available target several fine
  obtain ⟨step, p, computed, pace, _, rounded, whole, _⟩ := spacedAt_exact available target
    (by omega) le (target_le_of_fine available target several le fine) i inner
  exact ⟨step, p, closeStep_computed _ _ (by omega) (by omega) (by omega) step computed,
    pace.one_le, rounded, whole⟩

theorem spacedAt_brackets (i : Nat) (inner : i < target - 1) :
    Brackets (i * (available - 1)) (target - 1) (spacedAt available target i) := by
  obtain ⟨step, p, close, one, rounded, whole⟩ :=
    spacedAt_close available target several le fine i inner
  rw [whole]
  exact floor_brackets _ _ _ p.value_nonneg
    (multiple_close _ _ i step p close one fine inner rounded)

theorem spacedAt_even (divides : target - 1 ∣ available - 1) (i : Nat) (inner : i < target - 1) :
    spacedAt available target i = i * ((available - 1) / (target - 1)) := by
  obtain ⟨step, p, close, _, rounded, whole⟩ :=
    spacedAt_close available target several le fine i inner
  have few := rows_le_of_fine available target several fine
  have small : i * ((available - 1) / (target - 1)) < 2 ^ 53 := by
    have bound := Nat.mul_le_mul_right ((available - 1) / (target - 1)) inner.le
    rw [Nat.mul_div_cancel' divides] at bound
    omega
  obtain ⟨m, kept, value⟩ := nearest?_natCast _ small
  rw [close.whole divides, ← Nat.cast_mul, kept] at rounded
  cases rounded
  rw [whole, value, Nat.floor_natCast]

theorem uniformIndices_brackets :
    ∃ indices, uniformIndices available target = .ok indices ∧ indices.length = target ∧
      ∀ i index, indices[i]? = some index →
        Brackets (i * (available - 1)) (target - 1) index ∧
        (target - 1 ∣ available - 1 → index = i * ((available - 1) / (target - 1))) := by
  refine ⟨_, uniformIndices_valid available target (by omega) le, ?_, ?_⟩
  · rw [if_neg (by omega), List.length_append, List.length_map, List.length_range,
      List.length_singleton]
    omega
  · intro i index found
    rw [if_neg (by omega)] at found
    rcases spaced_position available target i index found with ⟨inner, rfl⟩ | ⟨rfl, rfl⟩
    · exact ⟨spacedAt_brackets available target several le fine i inner,
        fun divides => spacedAt_even available target several le fine divides i inner⟩
    · refine ⟨⟨(Nat.mul_comm _ _).le, ?_⟩, fun divides => (Nat.mul_div_cancel' divides).symm⟩
      rw [Nat.succ_mul, Nat.mul_comm]
      exact Nat.le_add_right _ _

end Spaced

/-- Where a position would be if nothing were rounded. -/
def exactPosition (available target i : Nat) : ℚ :=
  (i * (available - 1) : Nat) / (target - 1 : Nat)

/-- An index never beyond the exact position and short of it only where that is a row, by one. -/
structure Accurate (exact : ℚ) (index : Nat) : Prop where
  not_beyond : index ≤ exact
  between_rows : (∀ row : Nat, exact ≠ row) → index = ⌊exact⌋₊
  on_row : ∀ row : Nat, exact = row → index = row ∨ index + 1 = row

theorem Brackets.accurate (count parts index : Nat) (positive : 0 < parts)
    (brackets : Brackets count parts index) : Accurate (count / parts : ℚ) index := by
  have partsRat : (0 : ℚ) < parts := Nat.cast_pos.mpr positive
  have low : (index : ℚ) ≤ count / parts := by
    rw [le_div_iff₀ partsRat]
    exact_mod_cast brackets.low
  have high : (count / parts : ℚ) ≤ index + 1 := by
    rw [div_le_iff₀ partsRat]
    exact_mod_cast brackets.high
  refine ⟨low, ?_, ?_⟩
  · intro between
    have apart : (count / parts : ℚ) ≠ index + 1 := by
      exact_mod_cast between (index + 1)
    exact ((Nat.floor_eq_iff (low.trans' (Nat.cast_nonneg _))).mpr
      ⟨low, lt_of_le_of_ne high apart⟩).symm
  · intro row same
    rw [same] at low high
    have lowRow : index ≤ row := by exact_mod_cast low
    have highRow : row ≤ index + 1 := by exact_mod_cast high
    omega

theorem uniformIndices_accurate (available target : Nat) (several : 1 < target)
    (le : target ≤ available) (fine : (available - 1) * (target - 1) ≤ 2 ^ 51) :
    ∃ indices, uniformIndices available target = .ok indices ∧ indices.length = target ∧
      ∀ i index, indices[i]? = some index →
        Accurate (exactPosition available target i) index := by
  obtain ⟨indices, selected, length, each⟩ :=
    uniformIndices_brackets available target several le fine
  refine ⟨indices, selected, length, ?_⟩
  intro i index found
  exact (each i index found).1.accurate _ _ _ (by omega)

theorem uniformIndices_accurate_short : ∃ indices, uniformIndices 31 23 = .ok indices ∧
    indices[11]? = some 14 ∧ Accurate (exactPosition 31 23 11) 14 := by
  obtain ⟨indices, selected, _, each⟩ :=
    uniformIndices_accurate 31 23 (by decide) (by decide) (by decide)
  have short : (uniformIndices 31 23).map (·[11]?) = .ok (some 14) := by decide +kernel
  rw [selected] at short
  have found : indices[11]? = some 14 := Except.ok.inj short
  exact ⟨indices, selected, found, each 11 14 found⟩

theorem uniformIndices_even (available target : Nat) (several : 1 < target)
    (le : target ≤ available) (fine : (available - 1) * (target - 1) ≤ 2 ^ 51) :
    ∃ indices, uniformIndices available target = .ok indices ∧ indices.length = target ∧
      (∀ i index next, indices[i]? = some index → indices[i + 1]? = some next →
        next = index + (available - 1) / (target - 1) ∨
          next = index + (available - 1) ⌈/⌉ (target - 1)) ∧
      (target - 1 ∣ available - 1 → ∀ i index, indices[i]? = some index →
        index = i * (available - 1) / (target - 1)) := by
  obtain ⟨indices, selected, length, each⟩ :=
    uniformIndices_brackets available target several le fine
  refine ⟨indices, selected, length, ?_, ?_⟩
  · intro i index next found after
    obtain ⟨first, firstEven⟩ := each i index found
    obtain ⟨second, secondEven⟩ := each (i + 1) next after
    by_cases divides : target - 1 ∣ available - 1
    · rw [firstEven divides, secondEven divides, Nat.succ_mul]
      exact .inl rfl
    · rw [ceilDiv_of_not_dvd _ _ (by omega) divides, ← Nat.add_assoc]
      rw [Nat.succ_mul] at second
      exact first.gap _ _ _ _ _ divides (by omega) second
  · intro divides i index found
    rw [(each i index found).2 divides, Nat.mul_div_assoc _ divides]

theorem uniformIndices_even_short : ∃ indices, uniformIndices 31 23 = .ok indices ∧
    indices[10]? = some 13 ∧ indices[11]? = some 14 ∧ indices[12]? = some 16 ∧
    (16 = 14 + 30 / 22 ∨ 16 = 14 + (30 : Nat) ⌈/⌉ (22 : Nat)) := by
  obtain ⟨indices, selected, _, gaps, _⟩ :=
    uniformIndices_even 31 23 (by decide) (by decide) (by decide)
  have around : (uniformIndices 31 23).map (fun rows => (rows[10]?, rows[11]?, rows[12]?)) =
      .ok (some 13, some 14, some 16) := by
    decide +kernel
  rw [selected] at around
  obtain ⟨tenth, eleventh, twelfth⟩ : indices[10]? = some 13 ∧ indices[11]? = some 14 ∧
      indices[12]? = some 16 := by
    simpa [Except.map] using around
  exact ⟨indices, selected, tenth, eleventh, twelfth, gaps 11 14 16 eleventh twelfth⟩

end PlotTables
