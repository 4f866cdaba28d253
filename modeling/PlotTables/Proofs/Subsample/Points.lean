import Mathlib.Tactic.IntervalCases
import PlotTables.Proofs.Decimal.Point
import PlotTables.Proofs.Subsample.Identifiers
import PlotTables.Proofs.Subsample.Paths
import PlotTables.Proofs.Table.Outputs

set_option autoImplicit false

namespace PlotTables

open Magnitude Binary64

section Quotient

variable (part whole : Nat) (nonzero : 1 ≤ part) (le : part ≤ whole) (word : whole < 2 ^ 64)

include nonzero le word

theorem quotient_computed : ∃ m, (ofNat part).div (ofNat whole) = .finite false m ∧
    0 < m.value ∧ m.value ≤ 1 := by
  have one : (1 : ℚ) ≤ part := by exact_mod_cast nonzero
  have leRat : (part : ℚ) ≤ whole := by exact_mod_cast le
  have small : (whole : ℚ) < 2 ^ 64 := by exact_mod_cast word
  obtain ⟨a, partRounded⟩ := nearest?_exists part (by linarith) 64 (by linarith) (by decide)
  obtain ⟨b, wholeRounded⟩ := nearest?_exists whole (by linarith) 64 small (by decide)
  have partClose := natCast_error part a partRounded
  have wholeClose := natCast_error whole b wholeRounded
  have ordered := nearest?_mono _ _ a b (by linarith) leRat partRounded wholeRounded
  rw [abs_le] at partClose wholeClose
  have divisor : 0 < b.value := by linarith
  -- Both are rounded by less than half of themselves, so that the quotient is far from the least.
  have large : 1 / 2 ^ 66 ≤ a.value / b.value := by
    rw [div_le_div_iff₀ (by norm_num) divisor]
    linarith
  have atMostOne : a.value / b.value ≤ 1 := (div_le_one divisor).mpr ordered
  have nonneg : 0 ≤ a.value / b.value := le_trans (by norm_num) large
  obtain ⟨m, rounded⟩ := nearest?_exists _ nonneg 1 (by linarith) (by decide)
  have close := nearest?_error _ m (normal_of_large _ large) rounded
  obtain ⟨unit, unitRounded, unitValue⟩ := exists_count 1 (by decide)
  rw [Nat.cast_one] at unitRounded unitValue
  refine ⟨m, ?_, ?_, ?_⟩
  · rw [div_ofNat part whole a b partRounded wholeRounded divisor, nearest_of_nearest? _ m rounded]
  · rw [abs_le] at close
    norm_num at large
    linarith
  · rw [← unitValue]
    exact nearest?_mono _ _ m unit nonneg atMostOne rounded unitRounded

end Quotient

theorem normalizedIds_finite (target i : Nat) (word : target < 2 ^ 64) (inside : i < target) :
    ∃ id, (normalizedIds target)[i]? = some (.finite false id) ∧ 0 < id.value ∧ id.value ≤ 1 := by
  obtain ⟨id, computed, range⟩ := quotient_computed (i + 1) target (by omega) inside word
  refine ⟨id, ?_, range⟩
  rw [normalizedIds, List.getElem?_map, List.getElem?_range inside, Option.map_some, computed]

theorem Magnitude.close_of_rounded (x y : ℚ) (m : Magnitude) (xNormal : 2 ^ 52 / unit ≤ x)
    (yNormal : 2 ^ 52 / unit ≤ y) (xRounded : nearest? x = some m)
    (yRounded : nearest? y = some m) : |y - x| ≤ 3 * x / 2 ^ 53 := by
  have xClose := nearest?_error x m xNormal xRounded
  have yClose := nearest?_error y m yNormal yRounded
  have nonneg : 0 ≤ x := le_trans (by positivity) xNormal
  rw [abs_le] at xClose yClose ⊢
  constructor <;> linarith

section Share

variable (part whole : Nat) (few : whole ≤ 2 ^ 48)

include few

theorem IsShort.eq_of_close {x : ℚ} (short : IsShort x) (positive : 0 < whole)
    (close : |(part / whole : ℚ) - x| ≤ 3 * x / 2 ^ 53) : part / whole = x := by
  obtain ⟨digit, power, _, single, _, rfl⟩ := short
  have wholePos : (0 : ℚ) < whole := by exact_mod_cast positive
  have powerPos : (0 : ℚ) < 10 ^ power := by positivity
  have digitLe : (digit : ℚ) ≤ 9 := by exact_mod_cast single
  have wholeLe : (whole : ℚ) ≤ 2 ^ 48 := by exact_mod_cast few
  -- On the common denominator the distance of the two is a whole number below one.
  have apart : |(part * 10 ^ power - digit * whole : ℚ)| < 1 := by
    have same : (part * 10 ^ power - digit * whole : ℚ) =
        (part / whole - digit / 10 ^ power) * (whole * 10 ^ power) := by
      field_simp
    rw [same, abs_mul, abs_of_pos (mul_pos wholePos powerPos)]
    calc |(part / whole - digit / 10 ^ power : ℚ)| * (whole * 10 ^ power)
      _ ≤ 3 * (digit / 10 ^ power) / 2 ^ 53 * (whole * 10 ^ power) :=
        mul_le_mul_of_nonneg_right close (mul_pos wholePos powerPos).le
      _ = 3 * (digit * whole) / 2 ^ 53 := by field_simp
      _ ≤ 3 * (9 * 2 ^ 48) / 2 ^ 53 := by gcongr
      _ < 1 := by norm_num
  have integers : |((part * 10 ^ power : Nat) - (digit * whole : Nat) : Int)| < 1 := by
    exact_mod_cast apart
  have same := Int.abs_lt_one_iff.mp integers
  rw [div_eq_div_iff wholePos.ne' powerPos.ne']
  exact_mod_cast (by omega : part * 10 ^ power = digit * whole)

theorem Magnitude.Share.point_iff (m : Magnitude) (share : Share part whole m) (nonzero : 1 ≤ part)
    (le : part ≤ whole) :
    '.' ∉ (Layout.identifier.text (.finite false m)).toList ↔ IsShort (part / whole) := by
  have positive : 0 < whole := nonzero.trans le
  have range := share_range part whole nonzero le
  have rounded := (roundsTo_iff _ m range.1.le).mp share.rounds
  have large : (1 : ℚ) / 2 ^ 48 ≤ part / whole := by
    have partRat : (1 : ℚ) ≤ part := by exact_mod_cast nonzero
    have wholeRat : (whole : ℚ) ≤ 2 ^ 48 := by exact_mod_cast few
    exact div_le_div₀ (by linarith) partRat (by exact_mod_cast positive) wholeRat
  have normal := normal_of_large (part / whole) (by linarith)
  rw [Layout.identifier_point m share.positive share.le_one]
  constructor
  next =>
    rintro ⟨x, short, rounds⟩
    obtain ⟨d, exact, _⟩ := short.decimal
    have nonneg : 0 ≤ x := exact ▸ d.value_nonneg
    have other := (roundsTo_iff x m nonneg).mp rounds
    have error := nearest?_error _ m normal rounded
    rw [abs_le] at error
    have otherNormal := normal_of_rounded x m (by linarith) other nonneg
    have close := close_of_rounded x (part / whole) m otherNormal normal other rounded
    rwa [short.eq_of_close part whole few positive close]
  next =>
    intro short
    exact ⟨_, short, share.rounds⟩

end Share

theorem not_isShort (part whole : Nat) (nonzero : 1 ≤ part) (positive : 0 < whole)
    (few : whole < 12500) : ¬IsShort (part / whole) := by
  rintro ⟨digit, power, _, single, behind, same⟩
  have wholeNonzero : (whole : ℚ) ≠ 0 := by exact_mod_cast positive.ne'
  rw [div_eq_div_iff wholeNonzero (by positivity)] at same
  have cross : part * 10 ^ power = digit * whole := by exact_mod_cast same
  obtain ⟨more, rfl⟩ := Nat.exists_eq_add_of_le behind
  have scaled : part * 10 ^ more * 100000 = digit * whole := by
    rw [← cross, Nat.pow_add]
    ring
  have atLeast : 1 ≤ part * 10 ^ more := Nat.mul_pos nonzero (Nat.pow_pos (by decide))
  have bound : digit * whole ≤ 9 * 12499 := Nat.mul_le_mul single (Nat.le_of_lt_succ few)
  have once : part * 10 ^ more = 1 := by omega
  rw [once] at scaled
  -- The largest digit that divides `100000` is eight.
  interval_cases digit <;> omega

section Points

variable (target : Nat)

theorem normalizedIds_point_iff (few : target ≤ 2 ^ 48) (i : Nat) (inside : i < target)
    (id : Magnitude) (there : (normalizedIds target)[i]? = some (.finite false id)) :
    '.' ∉ (Layout.identifier.text (.finite false id)).toList ↔
      IsShort ((i + 1 : Nat) / target) := by
  obtain ⟨_, found, share⟩ := normalizedIds_share target (few.trans (by decide)) i inside
  rw [there] at found
  cases found
  exact share.point_iff (i + 1) target few id (by omega) inside

theorem normalizedIds_pointed (few : target < 12500) :
    ∀ id ∈ normalizedIds target, '.' ∈ (Layout.identifier.text id).toList := by
  intro x member
  obtain ⟨i, inside, rfl⟩ := List.getElem_of_mem member
  have within : i < target := by rwa [normalizedIds_length] at inside
  obtain ⟨id, there, _⟩ := normalizedIds_finite target i (by omega) within
  rw [List.getElem?_eq_getElem inside, Option.some_inj] at there
  by_contra bare
  rw [there] at bare
  refine not_isShort (i + 1) target (by omega) (by omega) few ?_
  refine (normalizedIds_point_iff target (by omega) i within id ?_).mp bare
  rw [List.getElem?_eq_getElem inside, there]

theorem normalizedIds_points (word : target < 2 ^ 64) :
    (∀ i < target, ∃ id, (normalizedIds target)[i]? = some (.finite false id) ∧
      ('.' ∉ (Layout.identifier.text (.finite false id)).toList ↔
        ∃ x, IsShort x ∧ RoundsTo x id) ∧
      (target ≤ 2 ^ 48 → ('.' ∉ (Layout.identifier.text (.finite false id)).toList ↔
        IsShort ((i + 1 : Nat) / target)))) ∧
    (target < 12500 → ∀ id ∈ normalizedIds target,
      '.' ∈ (Layout.identifier.text id).toList) ∧
    (∀ t s report, subsampleTable t target = .ok (s, report) →
      ∃ column, s.columnIndex Table.idColumn = .ok column ∧
        s.columnCells column = (normalizedIds target).map Layout.identifier.text) ∧
    ∀ counts series report, subsampleCounts counts target = .ok (series, report) →
      ∃ s, Table.read series.write = .ok s ∧ s.columnIndex Table.idColumn = .ok 0 ∧
        s.columnCells 0 = (normalizedIds target).map Layout.identifier.text := by
  refine ⟨?_, normalizedIds_pointed target, fun t s report => subsampleTable_ids t s target report,
    ?_⟩
  next =>
    intro i inside
    obtain ⟨id, there, positive, le⟩ := normalizedIds_finite target i word inside
    exact ⟨id, there, Layout.identifier_point id positive le,
      fun few => normalizedIds_point_iff target few i inside id there⟩
  next =>
    intro counts series report done
    refine ⟨series.table, series.read_series, rfl, ?_⟩
    rw [series.table_ids, subsampleCounts_ids counts target series report done]

end Points

theorem normalizedIds_points_first :
    (∃ id, (normalizedIds 12500)[0]? = some (.finite false id) ∧
      '.' ∉ (Layout.identifier.text (.finite false id)).toList) ∧
    (∀ id ∈ normalizedIds 12499, '.' ∈ (Layout.identifier.text id).toList) ∧
    ∃ series report s, subsampleCounts [7] 1 = .ok (series, report) ∧
      Table.read series.write = .ok s ∧ s.columnCells 0 = ["1.0"] := by
  have short : IsShort ((0 + 1 : Nat) / (12500 : Nat)) := ⟨8, 5, by norm_num⟩
  have done : subsampleCounts [7] 1 =
      .ok (⟨[⟨Binary64.ofNat 1, 7⟩]⟩, Report.ofIndices 1 [0] true) := by decide +kernel
  have one : (normalizedIds 1).map Layout.identifier.text = ["1.0"] := by decide +kernel
  obtain ⟨id, there, _, iff⟩ := (normalizedIds_points 12500 (by decide)).1 0 (by decide)
  obtain ⟨s, read, _, cells⟩ := (normalizedIds_points 1 (by decide)).2.2.2 _ _ _ done
  exact ⟨⟨id, there, (iff (by decide)).mpr short⟩,
    (normalizedIds_points 12499 (by decide)).2.1 (by decide), _, _, s, done, read,
    cells.trans one⟩

theorem normalizedIds_without_point :
    (normalizedIds 12500)[0]?.map Layout.identifier.text = some "8e-5" ∧
    ¬∀ target, 1 ≤ target → ∀ id ∈ normalizedIds target,
      '.' ∈ (Layout.identifier.text id).toList := by
  have there : (normalizedIds 12500)[0]? =
      some ((Binary64.ofNat 1).div (Binary64.ofNat 12500)) := by
    rw [normalizedIds, List.getElem?_map, List.getElem?_range (by decide), Option.map_some]
  have text : Layout.identifier.text ((Binary64.ofNat 1).div (Binary64.ofNat 12500)) = "8e-5" := by
    decide +kernel
  refine ⟨by rw [there, Option.map_some, text], ?_⟩
  intro pointed
  have member := pointed 12500 (by decide) _ (List.mem_of_getElem? there)
  rw [text] at member
  exact absurd member (by decide)

end PlotTables
