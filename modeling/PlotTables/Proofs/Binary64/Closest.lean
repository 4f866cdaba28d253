import Mathlib.Data.Nat.Dist
import PlotTables.Proofs.Binary64.Nearest

set_option autoImplicit false

namespace PlotTables

theorem multiple_sides (quotient other den : Nat) :
    other = quotient ∨ other * den + den ≤ quotient * den ∨
      quotient * den + den ≤ other * den := by
  rcases Nat.lt_trichotomy other quotient with less | same | greater
  next =>
    have far := Nat.mul_le_mul_right den (Nat.succ_le_of_lt less)
    rw [Nat.succ_mul] at far
    exact .inr (.inl far)
  next => exact .inl same
  next =>
    have far := Nat.mul_le_mul_right den (Nat.succ_le_of_lt greater)
    rw [Nat.succ_mul] at far
    exact .inr (.inr far)

theorem roundHalfEven_nearest (num den other : Nat) (positive : 0 < den) :
    Nat.dist (roundHalfEven num den * den) num ≤ Nat.dist (other * den) num := by
  have error := roundHalfEven_error num den positive
  unfold Nat.dist
  rcases multiple_sides (roundHalfEven num den) other den with same | less | greater
  next => rw [same]
  next => omega
  next => omega

theorem roundHalfEven_even_of_tie (num den other : Nat) (positive : 0 < den)
    (different : other ≠ roundHalfEven num den)
    (tie : Nat.dist (roundHalfEven num den * den) num = Nat.dist (other * den) num) :
    roundHalfEven num den % 2 = 0 := by
  apply roundHalfEven_even
  have whole := Nat.div_add_mod' num den
  have small := Nat.mod_lt num positive
  have next : (num / den + 1) * den = num / den * den + den := Nat.succ_mul _ _
  unfold Nat.dist at tie
  have sides := (multiple_sides (roundHalfEven num den) other den).resolve_left different
  rcases roundHalfEven_sides num den with ⟨down, low⟩ | ⟨up, high⟩
  next =>
    rw [down] at tie sides
    omega
  next =>
    rw [up] at tie sides
    omega

theorem roundHalfEven_of_near (num den candidate : Nat) (positive : 0 < den)
    (low : 2 * (candidate * den) < 2 * num + den) (high : 2 * num < 2 * (candidate * den) + den) :
    roundHalfEven num den = candidate := by
  obtain ⟨above, below⟩ := roundHalfEven_error num den positive
  apply Nat.le_antisymm
  next =>
    by_contra more
    have far := Nat.mul_le_mul_right den (show candidate + 1 ≤ roundHalfEven num den by omega)
    rw [Nat.succ_mul] at far
    omega
  next =>
    by_contra less
    have far := Nat.mul_le_mul_right den (show roundHalfEven num den + 1 ≤ candidate by omega)
    rw [Nat.succ_mul] at far
    omega

namespace Magnitude

theorem scaled_lt (m : Magnitude) : m.scaled < 2 ^ 53 * 2 ^ m.exponent :=
  Nat.mul_lt_mul_of_pos_right m.significand_lt (Nat.two_pow_pos _)

theorem le_scaled_of_exponent_lt (m n : Magnitude) (less : m.exponent < n.exponent) :
    2 ^ 53 * 2 ^ m.exponent ≤ n.scaled := by
  have normal : 2 ^ 52 ≤ n.significand := n.canonical.resolve_left (by omega)
  calc 2 ^ 53 * 2 ^ m.exponent = 2 ^ 52 * 2 ^ (m.exponent + 1) := by rw [Nat.pow_succ]; omega
    _ ≤ n.scaled := Nat.mul_le_mul normal (Nat.pow_le_pow_right (by decide) less)

theorem scaled_injective (m n : Magnitude) (same : m.scaled = n.scaled) : m = n := by
  have apart (a b : Magnitude) (less : a.exponent < b.exponent) : a.scaled < b.scaled :=
    Nat.lt_of_lt_of_le a.scaled_lt (le_scaled_of_exponent_lt a b less)
  have exponents : m.exponent = n.exponent := by
    rcases Nat.lt_trichotomy m.exponent n.exponent with less | equal | greater
    · exact absurd same (apart m n less).ne
    · exact equal
    · exact absurd same (apart n m greater).ne'
  have significands : m.significand = n.significand := by
    rw [scaled, scaled, exponents] at same
    exact Nat.mul_right_cancel (Nat.two_pow_pos _) same
  cases m
  cases n
  cases exponents
  cases significands
  rfl

theorem exponentOf_eq (num den e : Nat) (positive : 0 < den)
    (low : e = 0 ∨ 2 ^ 52 * (den * 2 ^ e) ≤ num) (high : num < 2 ^ 53 * (den * 2 ^ e)) :
    exponentOf num den = e := by
  have below : num / den < 2 ^ (e + 53) := by
    rw [Nat.div_lt_iff_lt_mul positive, Nat.pow_add]
    calc num < 2 ^ 53 * (den * 2 ^ e) := high
      _ = 2 ^ e * 2 ^ 53 * den := by ring
  rcases low with rfl | low
  next =>
    have log := log2_le_of_lt (num / den) 52 (by simpa using below)
    simp only [exponentOf]
    omega
  next =>
    have above : 2 ^ (e + 52) ≤ num / den := by
      rw [Nat.le_div_iff_mul_le positive, Nat.pow_add]
      calc 2 ^ e * 2 ^ 52 * den = 2 ^ 52 * (den * 2 ^ e) := by ring
        _ ≤ num := low
    have nonzero : num / den ≠ 0 := by
      have := Nat.two_pow_pos (e + 52)
      omega
    have log : (num / den).log2 = e + 52 :=
      (Nat.log2_eq_iff nonzero).mpr ⟨above, by simpa [Nat.add_assoc] using below⟩
    simp only [exponentOf, log]
    omega

theorem ofRatio?_of_near (num den : Nat) (m : Magnitude) (positive : 0 < den)
    (inner : num < m.scaled * den → m.exponent = 0 ∨ 2 ^ 52 < m.significand)
    (low : 2 * (m.scaled * den) < 2 * num + den * 2 ^ m.exponent)
    (high : 2 * num < 2 * (m.scaled * den) + den * 2 ^ m.exponent) : ofRatio? num den = some m := by
  have grid : 0 < den * 2 ^ m.exponent := Nat.mul_pos positive (Nat.two_pow_pos _)
  have exact : m.scaled * den = m.significand * (den * 2 ^ m.exponent) := by
    rw [scaled]
    ring
  have next := Nat.mul_le_mul_right (den * 2 ^ m.exponent) (Nat.succ_le_of_lt m.significand_lt)
  rw [Nat.succ_mul] at next
  have normal : m.exponent = 0 ∨ 2 ^ 52 * (den * 2 ^ m.exponent) ≤ num := by
    by_cases below : num < m.scaled * den
    next =>
      refine (inner below).imp_right fun above => ?_
      have bound := Nat.mul_le_mul_right (den * 2 ^ m.exponent) (Nat.succ_le_of_lt above)
      rw [Nat.succ_mul] at bound
      omega
    next =>
      refine m.canonical.imp_right fun least => ?_
      have bound := Nat.mul_le_mul_right (den * 2 ^ m.exponent) least
      omega
  have exponent : exponentOf num den = m.exponent :=
    exponentOf_eq num den m.exponent positive normal (by omega)
  have rounded : roundHalfEven num (den * 2 ^ m.exponent) = m.significand :=
    roundHalfEven_of_near _ _ _ grid (by rwa [← exact]) (by rwa [← exact])
  simp only [ofRatio?, exponent, rounded, m.significand_lt, m.exponent_le, dif_pos]

theorem ofRatio?_above (num den : Nat) (m : Magnitude) (positive : 0 < den)
    (low : m.scaled * den ≤ num) (high : 2 * num < 2 * (m.scaled * den) + den * 2 ^ m.exponent) :
    ofRatio? num den = some m := by
  have grid : 0 < den * 2 ^ m.exponent := Nat.mul_pos positive (Nat.two_pow_pos _)
  exact ofRatio?_of_near num den m positive (fun below => absurd low (Nat.not_le.mpr below))
    (by omega) high

theorem nearest?_value (m : Magnitude) : nearest? m.value = some m := by
  have exact : m.value = (m.scaled : ℚ) / (1 : Nat) / unit := by rw [Nat.cast_one, div_one, value]
  have grid := Nat.two_pow_pos m.exponent
  rw [exact, ← ofRatio?_nearest _ _ Nat.one_pos]
  exact ofRatio?_above _ _ m Nat.one_pos (by omega) (by omega)

theorem ofRatio?_exists_of_le (num larger den : Nat) (n : Magnitude) (le : num ≤ larger)
    (upper : ofRatio? larger den = some n) : ∃ m, ofRatio? num den = some m := by
  have exponents := exponentOf_mono num den larger den (Nat.div_le_div_right le)
  rw [ofRatio?_exists_iff]
  rcases (ofRatio?_exists_iff larger den).mp ⟨n, upper⟩ with room | ⟨last, below⟩
  next => exact .inl (Nat.lt_of_le_of_lt exponents room)
  next =>
    rcases Nat.lt_or_ge (exponentOf num den) (exponentOf larger den) with less | same
    next => exact .inl (by omega)
    next =>
      rw [Nat.le_antisymm same exponents] at below
      exact .inr ⟨by omega, Nat.lt_of_le_of_lt (roundHalfEven_mono num larger _ le) below⟩

theorem nearest?_exists_of_le (x y : ℚ) (n : Magnitude) (nonneg : 0 ≤ x) (le : x ≤ y)
    (upper : nearest? y = some n) : ∃ m, nearest? x = some m := by
  obtain ⟨a, c, den, positive, xRatio, yRatio, xSame, ySame⟩ :=
    nearest?_common x y nonneg (nonneg.trans le)
  rw [xRatio, yRatio, div_le_div_iff_of_pos_right unit_rat_pos,
    div_le_div_iff_of_pos_right (Nat.cast_pos.mpr positive)] at le
  rw [xSame]
  rw [ySame] at upper
  exact ofRatio?_exists_of_le a c den n (Nat.cast_le.mp le) upper

structure IsNearest (x : ℚ) (m : Magnitude) : Prop where
  nearest : ∀ other : Magnitude, |m.value - x| ≤ |other.value - x|
  even : ∀ other : Magnitude, other ≠ m → |m.value - x| = |other.value - x| →
    m.significand % 2 = 0

theorem significand_of_ofRatio? (num den : Nat) (m : Magnitude)
    (rounded : ofRatio? num den = some m) :
    m.significand = roundHalfEven num (den * 2 ^ exponentOf num den) ∨ m.significand = 2 ^ 52 := by
  simp only [ofRatio?] at rounded
  split at rounded
  next =>
    split at rounded
    next => cases rounded; exact .inl rfl
    next => cases rounded
  next =>
    split at rounded
    next => cases rounded; exact .inr rfl
    next => cases rounded

section Choice

variable (num den : Nat) (m other : Magnitude) (positive : 0 < den)
  (rounded : ofRatio? num den = some m)

include rounded

theorem ofRatio?_grid : m.scaled * den =
    roundHalfEven num (den * 2 ^ exponentOf num den) * (den * 2 ^ exponentOf num den) := by
  rw [scaled_of_ofRatio? num den m rounded]
  ring

include positive

theorem ofRatio?_candidate (different : other ≠ m) :
    (∃ candidate, candidate ≠ roundHalfEven num (den * 2 ^ exponentOf num den) ∧
      other.scaled * den = candidate * (den * 2 ^ exponentOf num den)) ∨
    Nat.dist (m.scaled * den) num < Nat.dist (other.scaled * den) num := by
  have grid : 0 < den * 2 ^ exponentOf num den := Nat.mul_pos positive (Nat.two_pow_pos _)
  rcases Nat.lt_or_ge other.exponent (exponentOf num den) with finer | coarser
  next =>
    have normal := le_div_of_exponentOf num den (by omega)
    rw [Nat.le_div_iff_mul_le grid] at normal
    have small : other.scaled * den < 2 ^ 52 * (den * 2 ^ exponentOf num den) := by
      calc other.scaled * den < 2 ^ 53 * 2 ^ other.exponent * den :=
            Nat.mul_lt_mul_of_pos_right other.scaled_lt positive
        _ = 2 ^ 52 * (den * 2 ^ (other.exponent + 1)) := by rw [Nat.pow_succ]; ring
        _ ≤ 2 ^ 52 * (den * 2 ^ exponentOf num den) := by
            apply Nat.mul_le_mul_left
            exact Nat.mul_le_mul_left _ (Nat.pow_le_pow_right (by decide) finer)
    have near := roundHalfEven_nearest num (den * 2 ^ exponentOf num den) (2 ^ 52) grid
    rw [ofRatio?_grid num den m rounded]
    unfold Nat.dist at near ⊢
    exact .inr (by omega)
  next =>
    refine .inl ⟨other.significand * 2 ^ (other.exponent - exponentOf num den), ?_, ?_⟩
    · intro same
      apply different
      apply scaled_injective
      rw [scaled_of_ofRatio? num den m rounded, ← same, Nat.mul_assoc, ← Nat.pow_add,
        Nat.sub_add_cancel coarser, scaled]
    · have split : 2 ^ other.exponent =
          2 ^ (other.exponent - exponentOf num den) * 2 ^ exponentOf num den := by
        rw [← Nat.pow_add, Nat.sub_add_cancel coarser]
      rw [scaled, split]
      ring

theorem ofRatio?_isNearest :
    Nat.dist (m.scaled * den) num ≤ Nat.dist (other.scaled * den) num := by
  by_cases same : other = m
  next => rw [same]
  next =>
    have grid : 0 < den * 2 ^ exponentOf num den := Nat.mul_pos positive (Nat.two_pow_pos _)
    rcases ofRatio?_candidate num den m other positive rounded same with
      ⟨candidate, _, exact⟩ | farther
    · rw [ofRatio?_grid num den m rounded, exact]
      exact roundHalfEven_nearest _ _ _ grid
    · exact farther.le

theorem ofRatio?_even (different : other ≠ m)
    (tie : Nat.dist (m.scaled * den) num = Nat.dist (other.scaled * den) num) :
    m.significand % 2 = 0 := by
  have grid : 0 < den * 2 ^ exponentOf num den := Nat.mul_pos positive (Nat.two_pow_pos _)
  rcases ofRatio?_candidate num den m other positive rounded different with
    ⟨candidate, apart, exact⟩ | farther
  · rw [ofRatio?_grid num den m rounded, exact] at tie
    have even := roundHalfEven_even_of_tie _ _ candidate grid apart tie
    rcases significand_of_ofRatio? num den m rounded with same | power
    · rwa [same]
    · rw [power]; decide
  · exact absurd tie farther.ne

end Choice

theorem cast_dist (a b : Nat) : ((Nat.dist a b : Nat) : ℚ) = |(a : ℚ) - b| := by
  rcases Nat.le_total a b with less | greater
  next =>
    rw [Nat.dist_eq_sub_of_le less, Nat.cast_sub less, abs_sub_comm, abs_of_nonneg]
    exact sub_nonneg.mpr (Nat.cast_le.mpr less)
  next =>
    rw [Nat.dist_eq_sub_of_le_right greater, Nat.cast_sub greater, abs_of_nonneg]
    exact sub_nonneg.mpr (Nat.cast_le.mpr greater)

theorem nearest?_isNearest (x : ℚ) (m : Magnitude) (nonneg : 0 ≤ x) (rounded : nearest? x = some m) :
    IsNearest x m := by
  obtain ⟨num, den, positive, ratio, same⟩ := nearest?_ratio x nonneg
  rw [same] at rounded
  have divisor : (0 : ℚ) < den := Nat.cast_pos.mpr positive
  have scale : (0 : ℚ) < den * unit := mul_pos divisor unit_rat_pos
  have distance (o : Magnitude) :
      |o.value - x| = Nat.dist (o.scaled * den) num / (den * unit : ℚ) := by
    have shape : o.value - x = ((o.scaled * den : Nat) - (num : ℚ)) / (den * unit) := by
      rw [ratio, value, Nat.cast_mul, sub_div, ← div_div, ← div_div,
        mul_div_cancel_right₀ _ divisor.ne']
    rw [shape, abs_div, abs_of_pos scale, cast_dist]
  constructor
  next =>
    intro other
    rw [distance, distance, div_le_div_iff_of_pos_right scale]
    exact_mod_cast ofRatio?_isNearest num den m other positive rounded
  next =>
    intro other different tie
    rw [distance, distance, div_left_inj' scale.ne'] at tie
    exact ofRatio?_even num den m other positive rounded different (by exact_mod_cast tie)

theorem exists_leastNormal : ∃ least : Magnitude, least.value = 2 ^ 52 / unit := by
  refine ⟨⟨2 ^ 52, 0, by decide, by decide, .inl rfl⟩, ?_⟩
  rw [value, scaled, Nat.pow_zero, Nat.mul_one, Nat.cast_pow, Nat.cast_ofNat]

theorem normal_of_large (x : ℚ) (large : 1 / 2 ^ 66 ≤ x) : 2 ^ 52 / unit ≤ x := by
  have enough : 2 ^ 118 ≤ unit := two_pow_le_unit 118 (by decide)
  refine le_trans ?_ large
  rw [div_le_div_iff₀ unit_rat_pos (by norm_num), one_mul, ← pow_add]
  exact_mod_cast enough

theorem normal_of_rounded (x : ℚ) (m : Magnitude) (large : 1 / 2 ^ 64 ≤ m.value)
    (rounded : nearest? x = some m) (nonneg : 0 ≤ x) : 2 ^ 52 / unit ≤ x := by
  by_contra small
  obtain ⟨least, exact⟩ := exists_leastNormal
  have below := nearest?_mono x least.value m least nonneg (by linarith) rounded
    (nearest?_value least)
  have above := normal_of_large (1 / 2 ^ 65) (by norm_num)
  linarith

end Magnitude

end PlotTables
