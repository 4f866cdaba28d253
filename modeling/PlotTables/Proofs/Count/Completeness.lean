import PlotTables.Proofs.Count.Soundness

set_option autoImplicit false

namespace PlotTables

theorem Literal.readFraction_other (first : Char) (rest : List Char) (other : first ≠ '.') :
    readFraction (first :: rest) = ([], first :: rest) := by
  unfold readFraction
  split
  next shape => exact absurd (List.cons.inj shape).1 other
  next => rfl

theorem Literal.read?_word (text : List Char) (letter : Char) (others : List Char)
    (word : (readSign text).2.map Char.toLower = letter :: others)
    (noDigit : letter.isDigit = false) (noPoint : letter ≠ '.') : read? text = none := by
  obtain ⟨first, rest, shape, lower, _⟩ := List.map_eq_cons_iff.mp word
  have firstNoDigit : first.isDigit = false := by
    apply Bool.eq_false_iff.mpr
    intro digit
    rw [toLower_of_isDigit first digit] at lower
    rw [lower, noDigit] at digit
    cases digit
  have firstNoPoint : first ≠ '.' := by
    intro point
    subst point
    exact noPoint lower.symm
  simp [read?, shape, firstNoDigit, readFraction_other first rest firstNoPoint]

theorem Binary64.read?_literal (text : List Char) (l : Literal)
    (read : Literal.read? text = some l) : read? text = some (ofLiteral l) := by
  have noWord (letter : Char) (others : List Char) (noDigit : letter.isDigit = false)
      (noPoint : letter ≠ '.') :
      (Literal.readSign text).2.map Char.toLower ≠ letter :: others := by
    intro word
    rw [Literal.read?_word text letter others word noDigit noPoint] at read
    cases read
  simp only [read?, read, Option.map_some]
  rw [if_neg (not_or.mpr ⟨noWord _ _ rfl (by decide), noWord _ _ rfl (by decide)⟩),
    if_neg (noWord _ _ rfl (by decide))]

namespace Count

theorem ofBinary64?_whole (negative : Bool) (m : Magnitude) (n : Nat) (value : m.value = n)
    (small : n < 2 ^ 53) (sign : negative = false ∨ n = 0) :
    ofBinary64? (.finite negative m) = some (UInt64.ofNat n) := by
  have units : m.scaled = n * Magnitude.unit := by
    rw [Magnitude.value, div_eq_iff Magnitude.unit_rat_pos.ne'] at value
    exact_mod_cast value
  have whole : m.scaled / Magnitude.unit = n := by
    rw [units, Nat.mul_div_cancel _ Magnitude.unit_pos]
  have nothing : m.scaled % Magnitude.unit = 0 := by rw [units, Nat.mul_mod_left]
  rw [ofBinary64?, whole, nothing, if_pos ⟨rfl, sign, small⟩]

theorem ofLiteral_whole (l : Literal) (n : Nat) (value : l.value = n) (small : n < 2 ^ 53) :
    ofBinary64? (.ofLiteral l) = some (UInt64.ofNat n) := by
  have unsigned : l.decimal.value = n := by rw [← l.abs_value, value, Nat.abs_cast]
  obtain ⟨m, rounded, exact⟩ := Magnitude.nearest?_natCast n small
  rw [← unsigned] at rounded
  have finite : Binary64.ofLiteral l = .finite l.negative m :=
    (l.decimal.ofDecimal_eq_finite l.negative l.negative m).mpr ⟨rfl, rounded⟩
  have sign : l.negative = false ∨ n = 0 := by
    cases minus : l.negative with
    | false => exact .inl rfl
    | true =>
      right
      simp only [Literal.value, minus, if_true, unsigned] at value
      have zero : (n : ℚ) = 0 := by linarith
      exact_mod_cast zero
  rw [finite, ofBinary64?_whole _ _ n exact small sign]

theorem read?_of_word (text : List Char) (count : UInt64)
    (word : readWord? (trimBlanks text) = some count) : read? text = some count := by
  simp only [read?, word]

theorem read?_fallback (text : List Char) (noWord : readWord? (trimBlanks text) = none) :
    read? text = (Binary64.read? (trimBlanks text)).bind ofBinary64? := by
  simp only [read?, noWord]

theorem read?_whole (text : List Char) (l : Literal) (n : Nat)
    (read : Literal.read? (trimBlanks text) = some l) (value : l.value = n) (small : n < 2 ^ 53) :
    read? text = some (UInt64.ofNat n) := by
  cases word : readWord? (trimBlanks text) with
  | none =>
    rw [read?_fallback text word, Binary64.read?_literal _ l read, Option.bind_some,
      ofLiteral_whole l n value small]
  | some count =>
    -- Both readers saw the same numeral.
    obtain ⟨digits, found, same⟩ := readWord?_sound _ count word
    rw [read] at found
    cases found
    rw [Literal.value_whole, same] at value
    have equal : count.toNat = n := by exact_mod_cast value
    rw [read?_of_word text count word, ← equal, UInt64.ofNat_toNat]

section Digits

variable (sign digits : List Char) (unsigned : Literal.SignText false sign) (nonempty : digits ≠ [])
  (all : ∀ c ∈ digits, c.isDigit = true)

include unsigned nonempty all

theorem readWord?_text : readWord? (sign ++ digits) =
    if Nat.ofDigitChars 10 digits 0 < 2 ^ 64 then some (UInt64.ofNat (Nat.ofDigitChars 10 digits 0))
    else none := by
  cases unsigned with
  | plus => simp [readWord?, nonempty, List.all_eq_true.mpr all]
  | none =>
    simp only [readWord?, List.nil_append]
    split
    next rest => cases all '+' (by simp)
    next => simp [nonempty, List.all_eq_true.mpr all]

theorem literal_of_digits :
    Literal.read? (sign ++ digits) = some ⟨false, digits, [], 0⟩ := by
  have read := Literal.read?_of_parts ⟨false, digits, [], 0⟩ sign [] []
    ⟨unsigned, all, .none, by simp, .inl nonempty, .none⟩ (by simp)
  simpa using read

theorem read?_overflow (text : List Char) (trimmed : trimBlanks text = sign ++ digits)
    (large : 2 ^ 64 ≤ Nat.ofDigitChars 10 digits 0) : read? text = none := by
  cases taken : read? text with
  | none => rfl
  | some count =>
    obtain ⟨l, found, same⟩ := read?_sound text count taken
    rw [trimmed, literal_of_digits sign digits unsigned nonempty all] at found
    cases found
    rw [Literal.value_whole] at same
    have exact := same.whole (Nat.ofDigitChars 10 digits 0) (by rw [Int.cast_natCast])
    have equal : Nat.ofDigitChars 10 digits 0 = count.toNat := by exact_mod_cast exact
    have below := count.toNat_lt
    omega

end Digits

/-- Digits, perhaps after a plus, of an unsigned integer of 64 bits. -/
def PlainWord (text : List Char) : Prop :=
  ∃ sign digits, Literal.SignText false sign ∧ text = sign ++ digits ∧ digits ≠ [] ∧
    (∀ c ∈ digits, c.isDigit = true) ∧ Nat.ofDigitChars 10 digits 0 < 2 ^ 64

theorem readWord?_none (text : List Char) : readWord? text = none ↔ ¬PlainWord text := by
  constructor
  next =>
    rintro refused ⟨sign, digits, unsigned, rfl, nonempty, all, fits⟩
    rw [readWord?_text sign digits unsigned nonempty all, if_pos fits] at refused
    cases refused
  next =>
    intro other
    obtain ⟨sign, digits, unsigned, shape, same⟩ := readWord?_unsigned text
    rw [same, if_neg]
    rintro ⟨nonempty, all, fits⟩
    exact other ⟨sign, digits, unsigned, shape, nonempty, List.all_eq_true.mp all, fits⟩

theorem parseWord_error (raw : String) (row : Nat) (column : String) (failure : Failure) :
    parseWord raw row column = .error failure ↔
      ¬PlainWord (trimBlanks raw.toList) ∧ failure = .invalidCount raw row column := by
  rw [← readWord?_none, parseWord]
  cases readWord? (trimBlanks raw.toList) with
  | some count => simp
  | none => simp [eq_comm]

theorem parse_complete (raw : String) (row : Nat) (column : String) :
    (∀ (l : Literal) (n : Nat), l.WrittenAs (trimBlanks raw.toList) → l.exponent.natAbs ≤ 65535 →
      l.value = n → n < 2 ^ 53 →
      ∃ count, parse raw row column = .ok count ∧ count.toNat = n) ∧
    ∀ sign digits : List Char, Literal.SignText false sign → digits ≠ [] →
      (∀ c ∈ digits, c.isDigit = true) → trimBlanks raw.toList = sign ++ digits →
      (Nat.ofDigitChars 10 digits 0 < 2 ^ 64 →
        ∃ count, parse raw row column = .ok count ∧ parseWord raw row column = .ok count ∧
          count.toNat = Nat.ofDigitChars 10 digits 0) ∧
      (2 ^ 64 ≤ Nat.ofDigitChars 10 digits 0 →
        parse raw row column = .error (.invalidCount raw row column) ∧
          parseWord raw row column = .error (.invalidCount raw row column)) := by
  constructor
  next =>
    intro l n written moderate value small
    obtain ⟨exponent, cut, read⟩ := l.read?_written _ written
    obtain rfl := cut.eq_of_lt _ _ (.inl (by omega))
    refine ⟨UInt64.ofNat n, ?_, UInt64.toNat_ofNat_of_lt' (Nat.lt_trans small (by decide))⟩
    rw [parse, read?_whole _ l n read value small]
  next =>
    intro sign digits unsigned nonempty all trimmed
    have word := readWord?_text sign digits unsigned nonempty all
    constructor
    next =>
      intro fits
      rw [if_pos fits] at word
      refine ⟨_, ?_, ?_, UInt64.toNat_ofNat_of_lt' fits⟩
      · rw [parse, read?_of_word _ _ (by rw [trimmed, word])]
      · rw [parseWord, trimmed, word]
    next =>
      intro large
      rw [if_neg (Nat.not_lt.mpr large)] at word
      constructor
      · rw [parse, read?_overflow sign digits unsigned nonempty all _ trimmed large]
      · rw [parseWord, trimmed, word]

theorem parse_complete_spellings :
    (∃ l : Literal, l.WrittenAs (trimBlanks "\t001000.0e-2 ".toList) ∧ l.exponent.natAbs ≤ 65535 ∧
      l.value = (10 : Nat)) ∧
    (∃ count, parse "\t001000.0e-2 " 0 "Count" = .ok count ∧ count.toNat = 10) ∧
    trimBlanks "+18446744073709551616".toList = ['+'] ++ "18446744073709551616".toList ∧
    parse "+18446744073709551616" 4 "Count" =
      .error (.invalidCount "+18446744073709551616" 4 "Count") := by
  have read : Literal.read? (trimBlanks "\t001000.0e-2 ".toList) =
      some ⟨false, ['0', '0', '1', '0', '0', '0'], ['0'], -2⟩ := by decide +kernel
  obtain ⟨exact, cut, written⟩ := Literal.read?_sound _ _ read
  obtain rfl := cut.eq_of_lt _ _ (.inr (by decide))
  have digits : Nat.ofDigitChars 10 ['0', '0', '1', '0', '0', '0', '0'] 0 = 10000 := by
    decide +kernel
  have value : Literal.value ⟨false, ['0', '0', '1', '0', '0', '0'], ['0'], -2⟩ = (10 : Nat) := by
    norm_num [Literal.value, Literal.decimal, Literal.digits, Literal.shift, Decimal.value, digits]
  have trimmed : trimBlanks "+18446744073709551616".toList =
      ['+'] ++ "18446744073709551616".toList := by decide +kernel
  have small := (parse_complete "\t001000.0e-2 " 0 "Count").1 _ 10 written (by decide) value
    (by decide)
  have large := ((parse_complete "+18446744073709551616" 4 "Count").2 ['+']
    "18446744073709551616".toList .plus (by decide +kernel)
    (List.all_eq_true.mp (by decide +kernel)) trimmed).2 (by decide +kernel)
  exact ⟨⟨_, written, by decide, value⟩, small, trimmed, large.1⟩

end Count

end PlotTables
