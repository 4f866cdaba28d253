import PlotTables.Proofs.Decimal.Identifier

set_option autoImplicit false

namespace PlotTables

namespace Magnitude

theorem exists_least : ∃ least : Magnitude, least.value = 1 / unit := by
  refine ⟨⟨1, 0, by decide, by decide, .inl rfl⟩, ?_⟩
  rw [value, scaled, Nat.pow_zero, Nat.mul_one, Nat.cast_one]

theorem two_pow_above_unit : (2 : ℚ) ^ 1075 = unit * 2 := by
  rw [unit, Nat.cast_pow, Nat.cast_ofNat, ← pow_succ]

theorem exists_limit : ∃ limit : Magnitude, limit.value = 2 ^ 53 := by
  refine ⟨⟨2 ^ 52, 1075, by decide, by decide, .inr (Nat.le_refl _)⟩, ?_⟩
  rw [value, scaled, Nat.cast_mul, Nat.cast_pow, Nat.cast_pow, Nat.cast_ofNat, two_pow_above_unit,
    div_eq_iff unit_rat_pos.ne']
  ring

section Rounded

variable (x : ℚ) (m : Magnitude) (nonneg : 0 ≤ x) (rounded : nearest? x = some m)

include rounded

theorem lt_of_rounded_lt (below : m.value < 2 ^ 53) : x < 2 ^ 53 := by
  obtain ⟨limit, bound⟩ := exists_limit
  by_contra above
  have mono := nearest?_mono _ x limit m limit.value_nonneg (by rw [bound]; exact not_lt.mp above)
    (nearest?_value limit) rounded
  rw [bound] at mono
  linarith

include nonneg

theorem small_of_rounded_zero (zero : m.value = 0) : x ≤ 1 / 2 ^ 1075 := by
  obtain ⟨least, unitValue⟩ := exists_least
  have near := (nearest?_isNearest x m nonneg rounded).nearest least
  rw [zero, unitValue, zero_sub, abs_neg, abs_of_nonneg nonneg] at near
  rw [two_pow_above_unit, ← div_div, le_div_iff₀ two_pos]
  rcases le_or_gt x (1 / unit) with below | above
  · rw [abs_of_nonneg (sub_nonneg.mpr below)] at near
    linarith
  · rw [abs_of_neg (sub_neg.mpr above)] at near
    have positive : (0 : ℚ) < 1 / unit := div_pos one_pos unit_rat_pos
    linarith

end Rounded

end Magnitude

theorem Binary64.read?_finite (text : List Char) (negative : Bool) (m : Magnitude)
    (read : read? text = some (.finite negative m)) :
    ∃ l, Literal.read? text = some l ∧ ofLiteral l = .finite negative m := by
  simp only [read?] at read
  split at read
  next => cases read
  next =>
    split at read
    next => cases read
    next => exact Option.map_eq_some_iff.mp read

namespace Literal

/-- Not both a long numeral and one with a large exponent, so that one cannot undo the other. -/
def Moderate (l : Literal) : Prop :=
  l.exponent.natAbs < 65536 ∨ (l.whole ++ l.fraction).length < 65000

section Moderate

variable (l : Literal) (few : (l.whole ++ l.fraction).length < 65000)

include few

theorem abs_value_large (positive : 0 < l.digits) (far : 65536 ≤ l.exponent) :
    2 ^ 65 ≤ |l.value| := by
  rw [List.length_append] at few
  have one : (1 : ℚ) ≤ l.digits := by exact_mod_cast positive
  calc (2 ^ 65 : ℚ) ≤ 10 ^ ((65 : Nat) : Int) := by norm_num
    _ ≤ 10 ^ l.shift := by
      apply zpow_le_zpow_right₀ (by norm_num)
      simp only [shift]
      omega
    _ ≤ l.digits * 10 ^ l.shift := le_mul_of_one_le_left (zpow_nonneg (by norm_num) _) one
    _ = |l.value| := l.abs_value.symm

theorem abs_value_tiny (below : l.digits < 10 ^ (l.whole ++ l.fraction).length)
    (far : l.exponent ≤ -65536) : |l.value| ≤ 1 / 2 ^ 1075 := by
  have digits : (l.digits : ℚ) ≤ 10 ^ ((l.whole ++ l.fraction).length : Int) := by
    rw [zpow_natCast]
    exact_mod_cast below.le
  calc |l.value| = l.digits * 10 ^ l.shift := l.abs_value
    _ ≤ 10 ^ ((l.whole ++ l.fraction).length : Int) * 10 ^ l.shift :=
      mul_le_mul_of_nonneg_right digits (zpow_nonneg (by norm_num) _)
    _ = 10 ^ ((l.whole ++ l.fraction).length + l.shift) := (zpow_add₀ (by norm_num) _ _).symm
    _ ≤ 10 ^ (-(536 : Nat) : Int) := by
      apply zpow_le_zpow_right₀ (by norm_num)
      simp only [shift]
      omega
    _ = 1 / 10 ^ 536 := by rw [zpow_neg, zpow_natCast, one_div]
    _ ≤ 1 / 2 ^ 1075 := by
      apply one_div_le_one_div_of_le (by positivity)
      calc (2 : ℚ) ^ 1075 ≤ 2 ^ (3 * 536) := pow_le_pow_right₀ (by norm_num) (by decide)
        _ = 8 ^ 536 := by rw [pow_mul]; norm_num
        _ ≤ 10 ^ 536 := pow_le_pow_left₀ (by norm_num) (by norm_num) _

end Moderate

end Literal

namespace Count

/-- Apart by half a unit in the last place, or zero for what is too small for another double. -/
def Near (x : ℚ) (count : Nat) : Prop :=
  |x - count| ≤ |x| / 2 ^ 53 ∨ count = 0 ∧ |x| ≤ 1 / 2 ^ 1075

/-- How a count and the number that it was taken for are related. -/
structure Taken (x : ℚ) (count : Nat) : Prop where
  near : Near x count
  whole : ∀ n : Int, x = n → x = count
  short : ∀ (places : Nat) (n : Int), places ≤ 323 → x * 10 ^ places = n → |n| < 2 ^ 53 → x = count
  large : 2 ^ 53 ≤ count → x = count

theorem Near.short (x : ℚ) (count : Nat) (near : Near x count) (places : Nat) (n : Int)
    (few : places ≤ 323) (scaled : x * 10 ^ places = n) (small : |n| < 2 ^ 53) : x = count := by
  have positive : (0 : ℚ) < 10 ^ places := by positivity
  have magnitude : |x| * 10 ^ places = |(n : ℚ)| := by
    rw [← scaled, abs_mul, abs_of_pos positive]
  -- At this many places both are integers.
  have gap : |(n : ℚ) - count * 10 ^ places| < 1 := by
    rw [← scaled, ← sub_mul, abs_mul, abs_of_pos positive]
    rcases near with near | ⟨rfl, tiny⟩
    next =>
      have smallRat : |(n : ℚ)| < 2 ^ 53 := by exact_mod_cast small
      calc |x - count| * 10 ^ places ≤ |x| / 2 ^ 53 * 10 ^ places :=
            mul_le_mul_of_nonneg_right near positive.le
        _ = |(n : ℚ)| / 2 ^ 53 := by rw [div_mul_eq_mul_div, magnitude]
        _ < 1 := (div_lt_one (by norm_num)).mpr smallRat
    next =>
      -- One unit at that place is still more than half the least double.
      have enough : 10 ^ 323 < 2 ^ 1075 := by decide +kernel
      have room : (10 : ℚ) ^ 323 < 2 ^ 1075 := by exact_mod_cast enough
      calc |x - (0 : Nat)| * 10 ^ places ≤ 1 / 2 ^ 1075 * 10 ^ places := by
            rw [Nat.cast_zero, sub_zero]
            exact mul_le_mul_of_nonneg_right tiny positive.le
        _ ≤ 1 / 2 ^ 1075 * 10 ^ 323 := by
          apply mul_le_mul_of_nonneg_left _ (by positivity)
          exact pow_le_pow_right₀ (by norm_num) few
        _ < 1 := by
          rw [one_div_mul_eq_div]
          exact (div_lt_one (by positivity)).mpr room
  have same : n = count * 10 ^ places := by
    apply Int.sub_eq_zero.mp (Int.abs_lt_one_iff.mp _)
    exact_mod_cast gap
  rw [same] at scaled
  apply mul_right_cancel₀ positive.ne'
  rw [scaled, Int.cast_mul, Int.cast_natCast, Int.cast_pow, Int.cast_ofNat]

theorem Taken.of_eq (x : ℚ) (count : Nat) (same : x = count) : Taken x count where
  near := by
    rw [Near, same, sub_self, abs_zero]
    exact .inl (div_nonneg (abs_nonneg _) (by norm_num))
  whole := fun _ _ => same
  short := fun _ _ _ _ _ => same
  large := fun _ => same

theorem Taken.of_tiny (x : ℚ) (tiny : |x| ≤ 1 / 2 ^ 1075) : Taken x 0 where
  near := .inr ⟨rfl, tiny⟩
  whole := by
    rintro n rfl
    have below : |(n : ℚ)| < 1 := by
      refine lt_of_le_of_lt tiny ((div_lt_one (by positivity)).mpr ?_)
      exact one_lt_pow₀ (by norm_num) (by decide)
    rw [← Int.cast_abs] at below
    have zero : n = 0 := Int.abs_lt_one_iff.mp (by exact_mod_cast below)
    rw [zero, Int.cast_zero, Nat.cast_zero]
  short := Near.short x 0 (.inr ⟨rfl, tiny⟩)
  large := fun far => absurd far (by decide)

section Rounded

variable (x : ℚ) (m : Magnitude) (count : Nat) (nonneg : 0 ≤ x)
  (rounded : Magnitude.nearest? x = some m) (value : m.value = count) (small : count < 2 ^ 53)

include nonneg rounded value small

theorem taken_of_rounded : Taken x count := by
  rcases Nat.eq_zero_or_pos count with rfl | positive
  next =>
    rw [Nat.cast_zero] at value
    have tiny := Magnitude.small_of_rounded_zero x m nonneg rounded value
    exact .of_tiny x (by rwa [abs_of_nonneg nonneg])
  next =>
    have one : 1 ≤ m.value := by
      rw [value]
      exact_mod_cast positive
    have normal := Magnitude.normal_of_rounded x m (le_trans (by norm_num) one) rounded nonneg
    have near : Near x count := by
      rw [Near, ← value, abs_sub_comm, abs_of_nonneg nonneg]
      exact .inl (Magnitude.nearest?_error x m normal rounded)
    refine ⟨near, ?_, near.short, fun far => absurd far (Nat.not_le.mpr small)⟩
    rintro n rfl
    have below := Magnitude.lt_of_rounded_lt n m rounded (by rw [value]; exact_mod_cast small)
    obtain ⟨k, rfl⟩ := Int.eq_ofNat_of_zero_le (show 0 ≤ n by exact_mod_cast nonneg)
    obtain ⟨exact, kept, same⟩ := Magnitude.nearest?_natCast k (by exact_mod_cast below)
    rw [Int.cast_natCast, kept] at rounded
    cases rounded
    rw [Int.cast_natCast, ← same, value]

end Rounded

theorem ofBinary64?_sound (x : Binary64) (count : UInt64) (taken : ofBinary64? x = some count) :
    ∃ negative m, x = .finite negative m ∧ m.value = count.toNat ∧ count.toNat < 2 ^ 53 ∧
      (negative = true → count.toNat = 0) := by
  cases x with
  | nan => cases taken
  | infinity negative => cases taken
  | finite negative m =>
    simp only [ofBinary64?] at taken
    split at taken
    next certain =>
      obtain ⟨even, sign, below⟩ := certain
      rw [exactLimit] at below
      have kept : count.toNat = m.scaled / Magnitude.unit := by
        rw [← Option.some.inj taken, UInt64.toNat_ofNat_of_lt' (Nat.lt_trans below (by decide))]
      have exact : m.scaled = count.toNat * Magnitude.unit := by
        rw [kept, Nat.div_mul_cancel (Nat.dvd_of_mod_eq_zero even)]
      refine ⟨negative, m, rfl, ?_, by omega, ?_⟩
      · rw [Magnitude.value, exact, Nat.cast_mul,
          mul_div_cancel_right₀ _ Magnitude.unit_rat_pos.ne']
      · rintro rfl
        rw [kept]
        exact sign.resolve_left (by decide)
    next => cases taken

theorem ofLiteral_taken (l : Literal) (count : UInt64)
    (taken : ofBinary64? (.ofLiteral l) = some count) : Taken l.value count.toNat := by
  obtain ⟨negative, m, finite, value, small, sign⟩ := ofBinary64?_sound _ count taken
  obtain ⟨rfl, rounded⟩ := (l.decimal.ofDecimal_eq_finite l.negative negative m).mp finite
  have nonneg := l.decimal.value_nonneg
  have unsigned := taken_of_rounded l.decimal.value m _ nonneg rounded value small
  unfold Literal.value
  split
  next minus =>
    rw [sign minus] at unsigned value ⊢
    rw [Nat.cast_zero] at value
    apply Taken.of_tiny
    rw [abs_neg, abs_of_nonneg nonneg]
    exact Magnitude.small_of_rounded_zero _ m nonneg rounded value
  next => exact unsigned

theorem readWord?_unsigned (text : List Char) : ∃ sign digits, Literal.SignText false sign ∧
    text = sign ++ digits ∧ readWord? text =
      if digits ≠ [] ∧ digits.all Char.isDigit ∧ Nat.ofDigitChars 10 digits 0 < 2 ^ 64 then
        some (UInt64.ofNat (Nat.ofDigitChars 10 digits 0))
      else none := by
  by_cases plus : ∃ rest, text = '+' :: rest
  next =>
    obtain ⟨rest, rfl⟩ := plus
    exact ⟨['+'], rest, .plus, rfl, rfl⟩
  next =>
    refine ⟨[], text, .none, rfl, ?_⟩
    unfold readWord?
    split
    next rest => exact absurd ⟨rest, rfl⟩ plus
    next => simp only

theorem readWord?_sound (text : List Char) (count : UInt64) (read : readWord? text = some count) :
    ∃ digits, Literal.read? text = some ⟨false, digits, [], 0⟩ ∧
      Nat.ofDigitChars 10 digits 0 = count.toNat := by
  obtain ⟨sign, digits, signText, shape, same⟩ := readWord?_unsigned text
  rw [same] at read
  split at read
  next word =>
    obtain ⟨nonempty, all, fits⟩ := word
    have literal := Literal.read?_of_parts ⟨false, digits, [], 0⟩ sign [] []
      ⟨signText, List.all_eq_true.mp all, .none, by simp, .inl nonempty, .none⟩ (by simp)
    rw [List.append_nil, List.append_nil, ← shape] at literal
    refine ⟨digits, literal, ?_⟩
    rw [← Option.some.inj read, UInt64.toNat_ofNat_of_lt' fits]
  next => cases read

theorem read?_sound (text : List Char) (count : UInt64) (read : read? text = some count) :
    ∃ l, Literal.read? (trimBlanks text) = some l ∧ Taken l.value count.toNat := by
  simp only [read?] at read
  split at read
  next word =>
    cases read
    obtain ⟨digits, found, value⟩ := readWord?_sound _ _ word
    refine ⟨_, found, .of_eq _ _ ?_⟩
    rw [Literal.value_whole, value]
  next =>
    obtain ⟨x, found, taken⟩ := Option.bind_eq_some_iff.mp read
    obtain ⟨negative, m, rfl, _⟩ := ofBinary64?_sound x count taken
    obtain ⟨l, literal, same⟩ := Binary64.read?_finite _ negative m found
    rw [← same] at taken
    exact ⟨l, literal, ofLiteral_taken l count taken⟩

theorem Taken.zero_of_tiny (x : ℚ) (count : Nat) (taken : Taken x count)
    (tiny : |x| ≤ 1 / 2 ^ 1075) : count = 0 := by
  rcases taken.near with near | ⟨zero, _⟩
  next =>
    have quarter : |x| ≤ 1 / 2 ^ 2 := by
      refine tiny.trans (one_div_le_one_div_of_le (by norm_num) ?_)
      exact pow_le_pow_right₀ (by norm_num) (by decide)
    have triangle := abs_sub_abs_le_abs_sub (count : ℚ) x
    rw [abs_sub_comm, Nat.abs_cast] at triangle
    have below : (count : ℚ) < 1 := by linarith
    exact Nat.lt_one_iff.mp (by exact_mod_cast below)
  next => exact zero

theorem Taken.abs_lt_of_word (x : ℚ) (count : Nat) (taken : Taken x count)
    (word : count < 2 ^ 64) : |x| < 2 ^ 65 := by
  have wordRat : (count : ℚ) < 2 ^ 64 := by exact_mod_cast word
  rcases taken.near with near | ⟨rfl, tiny⟩
  next =>
    have triangle := abs_sub_abs_le_abs_sub x (count : ℚ)
    rw [Nat.abs_cast] at triangle
    linarith
  next =>
    refine lt_of_le_of_lt tiny (lt_of_le_of_lt (b := 1) ?_ (by norm_num))
    exact div_le_one_of_le₀ (one_le_pow₀ (by norm_num)) (by positivity)

theorem Taken.of_cut (l : Literal) (exponent : Int) (count : Nat)
    (cut : Literal.CutTo l.exponent exponent) (moderate : l.Moderate)
    (below : l.digits < 10 ^ (l.whole ++ l.fraction).length) (word : count < 2 ^ 64)
    (taken : Taken { l with exponent := exponent }.value count) : Taken l.value count := by
  rcases cut with rfl | ⟨far, le⟩ | ⟨le, far⟩
  next => exact taken
  next =>
    have few := moderate.resolve_left (by omega)
    rcases Nat.eq_zero_or_pos l.digits with zero | positive
    next =>
      have same : Literal.value { l with exponent := exponent } = l.value := by
        have other : Literal.digits { l with exponent := exponent } = 0 := zero
        simp [Literal.value, Literal.decimal, Decimal.value, zero, other]
      rwa [same] at taken
    next =>
      have large := Literal.abs_value_large { l with exponent := exponent } few positive far
      exact absurd (taken.abs_lt_of_word _ _ word) (not_lt.mpr large)
  next =>
    have few := moderate.resolve_left (by omega)
    have tiny := Literal.abs_value_tiny { l with exponent := exponent } few below far
    rw [taken.zero_of_tiny _ _ tiny]
    exact .of_tiny _ (l.abs_value_tiny few below (le.trans far))

theorem parse_sound (raw : String) (row : Nat) (column : String) :
    (∀ count, parse raw row column = .ok count →
      (∃ l : Literal, l.WrittenAs (trimBlanks raw.toList)) ∧
        ∀ l : Literal, l.WrittenAs (trimBlanks raw.toList) → l.Moderate →
          Taken l.value count.toNat) ∧
      ∀ failure, parse raw row column = .error failure →
        failure = .invalidCount raw row column := by
  unfold parse
  cases read : read? raw.toList with
  | none => simp [eq_comm]
  | some count =>
    obtain ⟨found, literal, taken⟩ := read?_sound _ count read
    obtain ⟨exact, _, written⟩ := Literal.read?_sound _ found literal
    refine ⟨?_, by simp⟩
    rintro _ ⟨⟩
    refine ⟨⟨_, written⟩, ?_⟩
    intro l other moderate
    obtain ⟨cut, same⟩ := Literal.read?_unique l found _ other literal
    rw [same] at taken
    exact taken.of_cut l _ _ cut moderate (other.digits_lt l _) count.toNat_lt

theorem parse_sound_point : parse " 10.0" 0 "Count" = .ok 10 ∧
    (∃ l : Literal, l.WrittenAs (trimBlanks " 10.0".toList) ∧ Taken l.value 10) ∧
    ∃ failure, parse " 10.5" 3 "Count" = .error failure ∧
      failure = .invalidCount " 10.5" 3 "Count" := by
  have count : parse " 10.0" 0 "Count" = .ok 10 := by decide +kernel
  have read : Literal.read? (trimBlanks " 10.0".toList) = some ⟨false, ['1', '0'], ['0'], 0⟩ := by
    decide +kernel
  have refused : parse " 10.5" 3 "Count" = .error (.invalidCount " 10.5" 3 "Count") := by
    decide +kernel
  obtain ⟨⟨l, written⟩, taken⟩ := (parse_sound " 10.0" 0 "Count").1 10 count
  have same := Literal.eq_of_read? l _ _ written read (by decide)
  exact ⟨count, ⟨l, written, taken l written (.inl (by rw [same]; decide))⟩, _, refused,
    (parse_sound " 10.5" 3 "Count").2 _ refused⟩

-- A fraction, but nearer to one than to any other double.
theorem parse_nearly_one : parse "0.99999999999999999" 0 "Count" = .ok 1 ∧
    ¬∃ l : Literal, l.WrittenAs (trimBlanks "0.99999999999999999".toList) ∧ l.value = 1 := by
  refine ⟨by decide +kernel, ?_⟩
  rintro ⟨l, written, one⟩
  have read : Literal.read? (trimBlanks "0.99999999999999999".toList) =
      some ⟨false, ['0'], List.replicate 17 '9', 0⟩ := by
    decide +kernel
  rw [Literal.eq_of_read? l _ _ written read (by decide)] at one
  have digits : Nat.ofDigitChars 10 (['0'] ++ List.replicate 17 '9') 0 = 99999999999999999 := by
    decide +kernel
  simp only [Literal.value, Literal.decimal, Literal.digits, Literal.shift, Decimal.value, digits,
    List.length_replicate] at one
  norm_num at one

end Count

end PlotTables
